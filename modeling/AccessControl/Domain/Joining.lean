import AccessControl.Text.Mark

namespace AccessControl.Domain

open Text

-- On which sides a letter joins others.
inductive Joining
  | both
  | left
  | right
  -- Letters join as if it was not there.
  | through
  | none
deriving DecidableEq, Repr

namespace Joining

-- The characters other than marks that join or are joined through.
def table : CodeTable Joining :=
  .ofValues [
    (.both, "
      620 626 628 62A-62E 633-63F 641-647 649-64A 66E-66F 678-687 69A-6BF 6C1-6C2 6CC 6CE 6D0-6D1
      6FA-6FC 6FF 712-714 71A-71D 71F-727 729 72B 72D-72E 74E-758 75C-76A 76D-770 772 775-777
      77A-77F 7CA-7EA 841-845 848 84A-853 855 860 862-865 868 886 889-88D 88F 8A0-8A9 8AF-8B0
      8B3-8B8 8BA-8C8 1807 1820-1878 1887-18A8 18AA A840-A871 10AC0-10AC4 10AD3-10AD6 10AD8-10ADC
      10ADE-10AE0 10AEB-10AEE 10B80 10B82 10B86-10B88 10B8A-10B8B 10B8D 10B90 10BAD-10BAE
      10D01-10D21 10D23 10EC3-10EC4 10EC6-10EC7 10F30-10F32 10F34-10F44 10F51-10F53 10F70-10F73
      10F76-10F81 10FB0 10FB2-10FB3 10FB8 10FBB-10FBC 10FBE-10FBF 10FC1 10FC4 10FCA 1E900-1E943"),
    (.right, "
      622-625 627 629 62F-632 648 671-673 675-677 688-699 6C0 6C3-6CB 6CD 6CF 6D2-6D3 6D5 6EE-6EF
      710 715-719 71E 728 72A 72C 72F 74D 759-75B 76B-76C 771 773-774 778-779 840 846-847 849 854
      856-858 867 869-86A 870-882 88E 8AA-8AC 8AE 8B1-8B2 8B9 10AC5 10AC7 10AC9-10ACA 10ACE-10AD2
      10ADD 10AE1 10AE4 10AEF 10B81 10B83-10B85 10B89 10B8C 10B8E-10B8F 10B91 10BA9-10BAC 10D22
      10EC2 10F33 10F54 10F74-10F75 10FB4-10FB6 10FB9-10FBA 10FBD 10FC2-10FC3 10FC9"),
    (.left, "A872 10ACD 10AD7 10D00 10FCB"),
    (.through, "1E94B")]

-- The property `Joining_Type`, as far as it matters to joiners.
def ofChar (c : Char) : Joining :=
  if isNonspacing c then .through else (table.value? c).getD .none

end Joining

-- The invisible joiners. They may only stand where they make a difference that can be seen.
def nonJoiner : Char := '\u200C'

def joiner : Char := '\u200D'

-- Whether the first character that letters do not join through has one of the given kinds.
def meets (kinds : List Joining) (cs : List Char) : Bool :=
  ((cs.map Joining.ofChar).dropWhile (· = .through)).head?.any kinds.contains

-- Whether a joiner may stand between what is before it, in reverse, and what is after it.
def mayJoin (c : Char) (before after : List Char) : Bool :=
  before.head?.any isVirama ||
    c == nonJoiner && meets [.left, .both] before && meets [.right, .both] after

-- Whether all joiners of a label stand where they may; `before` comes before it, in reverse.
def joinsWell (before : List Char) : List Char → Bool
  | [] => true
  | c :: cs =>
    (if c == nonJoiner || c == joiner then mayJoin c before cs else true) && joinsWell (c :: before) cs

end AccessControl.Domain
