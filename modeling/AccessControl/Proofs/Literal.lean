import AccessControl.Json.Typed
import AccessControl.Proofs.Decoding
import AccessControl.Proofs.Passing

namespace AccessControl.Json

open Utf8

-- A string from inside the quotes to the last of them, and the bytes that it stands for.
inductive Spells : Bytes → Bytes → Prop
  | quote : Spells [0x22] []
  | plain {b : UInt8} {w v : Bytes} (hb : IsPlain b) (h : Spells w v) : Spells (b :: w) (b :: v)
  | short {e c : UInt8} {w v : Bytes} (he : shortEscape? e = some c) (h : Spells w v) :
    Spells (0x5C :: e :: w) (c :: v)
  | unit {a b c d : UInt8} {n : Nat} {w v : Bytes} (hx : hex4? a b c d = some n)
    (hl : isLowSurrogate n = false) (hh : isHighSurrogate n = false) (h : Spells w v) :
    Spells (0x5C :: 0x75 :: a :: b :: c :: d :: w) (String.utf8EncodeChar (Char.ofNat n) ++ v)
  | pair {a₁ b₁ c₁ d₁ a₂ b₂ c₂ d₂ : UInt8} {n m : Nat} {w v : Bytes} (hx : hex4? a₁ b₁ c₁ d₁ = some n)
    (hh : isHighSurrogate n = true) (hy : hex4? a₂ b₂ c₂ d₂ = some m) (hl : isLowSurrogate m = true)
    (h : Spells w v) :
    Spells (0x5C :: 0x75 :: a₁ :: b₁ :: c₁ :: d₁ :: 0x5C :: 0x75 :: a₂ :: b₂ :: c₂ :: d₂ :: w)
      (String.utf8EncodeChar (Char.ofNat (0x10000 + (n - 0xD800) * 0x400 + (m - 0xDC00))) ++ v)

-- A string from inside the quotes to the last of them, and the text that it decodes to.
def SpellsText (w : Bytes) (s : String) : Prop :=
  Spells w (encodeString s)

section

variable {w v r g acc : Bytes} {b : UInt8} {s : String}

theorem Spells.stringText (h : Spells w v) : StringText w := by
  induction h
  case quote => exact .quote
  case plain hb _ hi => exact .plain hb hi
  case short he _ hi => exact .short he hi
  case unit hx _ _ _ hi => exact .hex hx hi
  case pair hx _ hy _ _ hi => exact .hex hx (.hex hy hi)

theorem not_isLowSurrogate {n : Nat} (h : isHighSurrogate n = true) : isLowSurrogate n = false := by
  simp only [isHighSurrogate, isLowSurrogate, Bool.and_eq_true, decide_eq_true_eq, Bool.and_eq_false_iff,
    decide_eq_false_iff_not] at h ⊢
  omega

theorem Spells.readStringFrom_append (h : Spells w v) :
    readStringFrom acc (w ++ r) = closeString (v.reverse ++ acc) r := by
  induction h generalizing acc
  case quote =>
    rw [List.singleton_append, readStringFrom.eq_def]
    rfl
  case plain hb _ hi =>
    rw [List.cons_append, readStringFrom.eq_def]
    simp only [if_neg hb.quote, if_neg hb.backslash, if_neg hb.control, hi, List.reverse_cons, List.append_assoc]
    rfl
  case short e c w v he _ hi =>
    have hu : e ≠ 0x75 := fun hu => by
      subst hu
      contradiction
    rw [List.cons_append, List.cons_append, readStringFrom_shortEscape hu he, hi, List.reverse_cons,
      List.append_assoc]
    rfl
  case unit hx hl hh _ hi =>
    simp only [List.cons_append]
    rw [readStringFrom.eq_def]
    simp [hx, hl, hh, hi, pushCodePoint]
  case pair hx hh hy hl _ hi =>
    simp only [List.cons_append]
    rw [readStringFrom.eq_def]
    simp [hx, hh, not_isLowSurrogate hh, hy, hl, hi, pushCodePoint]

theorem reverse_pushCodePoint (n : Nat) :
    (pushCodePoint n acc).reverse = acc.reverse ++ String.utf8EncodeChar (Char.ofNat n) := by
  rw [pushCodePoint, List.reverse_append, List.reverse_reverse]

-- The bytes so far, and then those that the rest stands for, are the bytes of the text.
theorem spells_of_readStringFrom (h : readStringFrom acc w = .ok (s, r)) :
    ∃ t v, Spells t v ∧ w = t ++ r ∧ acc.reverse ++ v = encodeString s := by
  fun_induction readStringFrom acc w
  case case2 =>
    rw [closeString] at h
    split at h
    case h_1 hs =>
      cases h
      exact ⟨_, [], .quote, rfl, by rw [List.append_nil, decodeString?_eq_some_iff.mp hs]⟩
    case h_2 => contradiction
  case case11 hx hn hh _ hy _ hz _ _ _ _ _ _ hm hl _ hi =>
    obtain ⟨t, v, ht, hw, hv⟩ := hi h
    rw [reverse_pushCodePoint, List.append_assoc] at hv
    rw [Decidable.not_not.mp hy, Decidable.not_not.mp hz, hw]
    exact ⟨_, _, .pair hx hh hm hl ht, rfl, hv⟩
  case case14 hx hl hh _ hi =>
    obtain ⟨t, v, ht, hw, hv⟩ := hi h
    rw [reverse_pushCodePoint, List.append_assoc] at hv
    rw [hw]
    exact ⟨_, _, .unit hx (eq_false_of_ne_true hl) (eq_false_of_ne_true hh) ht, rfl, hv⟩
  case case16 he _ hi =>
    obtain ⟨t, v, ht, hw, hv⟩ := hi h
    rw [List.reverse_cons, List.append_assoc] at hv
    rw [hw]
    exact ⟨_, _, .short he ht, rfl, hv⟩
  case case19 hq hb hc hi =>
    obtain ⟨t, v, ht, hw, hv⟩ := hi h
    rw [List.reverse_cons, List.append_assoc] at hv
    rw [hw]
    exact ⟨_, _, .plain ⟨hq, hb, hc⟩ ht, rfl, hv⟩
  all_goals contradiction

theorem readString_spelled (h : SpellsText w s) (r : Bytes) : readString (w ++ r) = .ok (s, r) := by
  rw [readString, Spells.readStringFrom_append h, closeString, List.append_nil, List.reverse_reverse,
    decodeString?_encodeString]

theorem spellsText_of_readString (h : readString w = .ok (s, r)) : ∃ t, SpellsText t s ∧ w = t ++ r := by
  have ⟨t, v, ht, hw, hv⟩ := spells_of_readStringFrom h
  rw [List.reverse_nil, List.nil_append] at hv
  subst hv
  exact ⟨t, ht, hw⟩

theorem spellsText_iff : SpellsText w s ↔ readString w = .ok (s, []) := by
  constructor
  case mp =>
    intro h
    have hr := readString_spelled h []
    rwa [List.append_nil] at hr
  case mpr =>
    intro h
    have ⟨t, ht, hw⟩ := spellsText_of_readString h
    rwa [hw, List.append_nil]

instance : Decidable (SpellsText w s) :=
  decidable_of_iff _ spellsText_iff.symm

-- Reading comes to no integer.
structure NoInteger (x : Read Number) : Prop where
  ne : ∀ i r, x ≠ .ok (.integer i, r)

section NoInteger

variable (negative : Bool) (n : Nat)

theorem noInteger_error (e : ReadError) : NoInteger (.error e) where
  ne := nofun

theorem noInteger_float (x : Binary64) (r : Bytes) : NoInteger (.ok (.float x, r)) where
  ne := nofun

theorem noInteger_floatBefore (e : Int) (w : Bytes) : NoInteger (floatBefore negative n e w) where
  ne i r h := by
    rw [floatBefore, floatOf] at h
    split at h <;> cases h

theorem noInteger_readExponentDigits (start : Int) (expNegative : Bool) (e : Nat) (w : Bytes) :
    NoInteger (readExponentDigits negative n start expNegative e w) := by
  induction w generalizing e
  case nil => exact noInteger_floatBefore ..
  case cons b w hi =>
    rw [readExponentDigits]
    dsimp only
    split_ifs
    · exact hi _
    · rw [exponentOverflow]
      split_ifs
      · exact noInteger_error _
      · exact noInteger_float _ _
    all_goals exact noInteger_floatBefore ..

theorem noInteger_readExponent (start : Int) (w : Bytes) : NoInteger (readExponent negative n start w) := by
  have unsigned (expNegative : Bool) (w : Bytes) :
      NoInteger (readUnsignedExponent negative n start expNegative w) := by
    cases w
    case nil => exact noInteger_error _
    case cons b w =>
      rw [readUnsignedExponent]
      split_ifs
      · exact noInteger_readExponentDigits ..
      · exact noInteger_error _
  cases w
  case nil => exact noInteger_error _
  case cons b w =>
    rw [readExponent_cons]
    split_ifs <;> exact unsigned ..

theorem noInteger_readOptionalExponent (e : Int) (w : Bytes) :
    NoInteger (readOptionalExponent negative n e w) := by
  cases w
  case nil => exact noInteger_floatBefore ..
  case cons b w =>
    rw [readOptionalExponent]
    split_ifs
    · exact noInteger_readExponent ..
    · exact noInteger_floatBefore ..

theorem noInteger_readFraction (before after : Nat) (w : Bytes) :
    NoInteger (readFraction negative n before after w) := by
  induction w generalizing n after
  case nil =>
    rw [readFraction]
    split_ifs
    · exact noInteger_error _
    · exact noInteger_floatBefore ..
  case cons b w hi =>
    rw [readFraction]
    dsimp only
    split_ifs
    · exact hi ..
    · exact noInteger_readOptionalExponent ..
    · exact noInteger_error _
    · exact noInteger_readOptionalExponent ..

theorem noInteger_readLongInteger (e : Nat) (w : Bytes) : NoInteger (readLongInteger negative n e w) := by
  induction w generalizing e
  case nil => exact noInteger_floatBefore ..
  case cons b w hi =>
    rw [readLongInteger]
    split_ifs
    · exact hi _
    · exact noInteger_readFraction ..
    · exact noInteger_readOptionalExponent ..

end NoInteger

section Digits

variable {negative : Bool} {n : Nat} {i : Int}

-- The digits of an integer end where its reader stops.
theorem readAfterInteger_integer (hd : EndsDigits w) (h : readAfterInteger negative n w = .ok (.integer i, r)) :
    integerOf negative n = .integer i ∧ w = r ∧ EndsNumber r := by
  cases w
  case nil =>
    obtain ⟨hi, hr⟩ := Prod.mk.inj (Except.ok.inj h)
    exact ⟨hi, hr, hr ▸ .nil⟩
  case cons b w =>
    rw [readAfterInteger] at h
    split_ifs at h with hp hm
    · exact absurd h ((noInteger_readFraction ..).ne i r)
    · exact absurd h ((noInteger_readExponent ..).ne i r)
    · obtain ⟨hi, hr⟩ := Prod.mk.inj (Except.ok.inj h)
      exact ⟨hi, hr, hr ▸ .cons (hd b w rfl) hp (eq_false_of_ne_true hm)⟩

theorem encode_digitChar (hb : isDigit b = true) : encode [(digitValue b).digitChar] = [b] := by
  have hn : b = UInt8.ofNat b.toNat := UInt8.ofNat_toNat.symm
  simp only [isDigit, Bool.and_eq_true, decide_eq_true_eq, UInt8.le_iff_toNat_le] at hb
  have all : ∀ n < 0x3A, 0x30 ≤ n → encode [(digitValue (UInt8.ofNat n)).digitChar] = [UInt8.ofNat n] := by decide
  rw [hn]
  exact all b.toNat (Nat.lt_succ_of_le hb.right) hb.left

theorem digitValue_lt (hb : isDigit b = true) : digitValue b < 10 := by
  simp only [isDigit, Bool.and_eq_true, decide_eq_true_eq, UInt8.le_iff_toNat_le] at hb
  have hn : (0x39 : UInt8).toNat = 0x39 := rfl
  rw [digitValue]
  omega

theorem digitValue_pos (hb : isDigit b = true) (hz : b ≠ 0x30) : 0 < digitValue b := by
  simp only [isDigit, Bool.and_eq_true, decide_eq_true_eq, UInt8.le_iff_toNat_le] at hb
  have hn : (0x30 : UInt8).toNat = 0x30 := rfl
  have hd : b.toNat ≠ 0x30 := fun h => hz <| UInt8.toNat_inj.mp <| h.trans hn.symm
  rw [digitValue]
  omega

-- One more digit behind those of a number that is not zero.
theorem encode_toDigits_snoc (hn : 0 < n) (hb : isDigit b = true) :
    encode (Nat.toDigits 10 (n * 10 + digitValue b)) = encode (Nat.toDigits 10 n) ++ [b] := by
  have hd := digitValue_lt hb
  have hq : (n * 10 + digitValue b) / 10 = n := by omega
  have hr : (n * 10 + digitValue b) % 10 = digitValue b := by omega
  rw [Nat.toDigits_of_base_le (by decide) (by omega), hq, hr, encode_append, encode_digitChar hb]

-- The digits after the first one, by induction on them.
theorem readIntegerDigits_integer (hn : 0 < n) (h : readIntegerDigits negative n w = .ok (.integer i, r)) :
    ∃ m ds, integerOf negative m = .integer i ∧ w = ds ++ r ∧ EndsNumber r ∧
      encode (Nat.toDigits 10 m) = encode (Nat.toDigits 10 n) ++ ds := by
  induction w generalizing n
  case nil =>
    obtain ⟨hi, hw, hr⟩ := readAfterInteger_integer endsDigits_nil h
    exact ⟨n, [], hi, hw, hr, by simp⟩
  case cons b w hi =>
    rw [readIntegerDigits] at h
    dsimp only at h
    split_ifs at h with hb hm
    · obtain ⟨m, ds, hm, hw, hr, he⟩ := hi (by omega) h
      refine ⟨m, b :: ds, hm, by rw [hw]; rfl, hr, ?_⟩
      rw [he, encode_toDigits_snoc hn hb, List.append_assoc]
      rfl
    · exact absurd h ((noInteger_readLongInteger ..).ne i r)
    · obtain ⟨hi, hw, hr⟩ := readAfterInteger_integer (endsDigits_cons (eq_false_of_ne_true hb) w) h
      exact ⟨n, [], hi, hw, hr, by simp⟩

theorem readNumber_integer (h : readNumber negative w = .ok (.integer i, r)) :
    ∃ n, integerOf negative n = .integer i ∧ w = encode (Nat.toDigits 10 n) ++ r ∧ EndsNumber r := by
  cases w
  case nil => contradiction
  case cons b w =>
    rw [readNumber_cons] at h
    split_ifs at h with hz hb
    · obtain ⟨hd, hr⟩ : EndsDigits w ∧ readAfterInteger negative 0 w = .ok (.integer i, r) := by
        cases w
        case nil => exact ⟨endsDigits_nil, h⟩
        case cons c w =>
          rw [afterZero] at h
          split_ifs at h with hc
          exact ⟨endsDigits_cons (eq_false_of_ne_true hc) w, h⟩
      obtain ⟨hi, hw, hr⟩ := readAfterInteger_integer hd hr
      exact ⟨0, hi, by rw [hz, hw]; rfl, hr⟩
    · have hp := digitValue_pos hb hz
      obtain ⟨n, ds, hn, hw, hr, he⟩ := readIntegerDigits_integer hp h
      rw [Nat.toDigits_of_lt_base (digitValue_lt hb), encode_digitChar hb] at he
      exact ⟨n, hn, by rw [he, hw]; rfl, hr⟩

end Digits

-- The literals of the kinds that settings have.
inductive Kind
  | text
  | natural (limit : Nat)
  | flag

abbrev Kind.Value : Kind → Type
  | .text => String
  | .natural _ => Nat
  | .flag => Bool

def Kind.Means : (kind : Kind) → Bytes → kind.Value → Prop
  | .text, w, (s : String) => ∃ t, w = 0x22 :: t ∧ SpellsText t s
  | .natural limit, w, (n : Nat) => w = encode (Nat.toDigits 10 n) ∧ n < limit
  | .flag, w, (b : Bool) => w = flagWord b

-- A value, or `null` for none.
def OrNull (Means : Bytes → α → Prop) (w : Bytes) : Option α → Prop
  | none => w = nullWord
  | some v => Means w v

def Kind.Gives (kind : Kind) : Bytes → Option kind.Value → Prop :=
  OrNull kind.Means

variable {α : Type} {item : Bytes → Read α} {Means : Bytes → α → Prop} {v : α} {u t rest : Bytes}

-- A reader of the literals with these meanings, and of nothing else. It goes as far as a reader does that passes
-- over the value.
structure Reads (item : Bytes → Read α) (Means : Bytes → α → Prop) : Prop where
  brings : ∀ {u v g rest}, Means u v → IsGap g → EndsNumber rest → item (g ++ (u ++ rest)) = .ok (v, rest)
  literal : ∀ {w v r}, item w = .ok (v, r) →
    ∃ b t u, skipBlanks w = b :: t ∧ Means (b :: u) v ∧ t = u ++ r ∧ skipScalar b t = .ok r

theorem reads_readText (expected : Expected) : Reads (readText expected) (Kind.Means .text) where
  brings h hg _ := by
    have ⟨t, hu, ht⟩ := h
    rw [hu, List.cons_append, readText, hg.skipBlanks_cons rfl]
    exact readString_spelled ht _
  literal h := by
    rw [readText] at h
    split at h
    case h_1 b t hb =>
      split_ifs at h with hq
      subst hq
      have ⟨u, hu, ht⟩ := spellsText_of_readString h
      exact ⟨_, t, u, hb, ⟨u, rfl, hu⟩, ht, skipString_of_readStringFrom h⟩
    case h_2 => contradiction

theorem reads_readFlag : Reads readFlag (Kind.Means .flag) where
  brings {u v g rest} h hg _ := by
    rw [show u = flagWord v from h]
    cases v <;> (rw [readFlag, flagWord, List.cons_append, hg.skipBlanks_cons rfl]; rfl)
  literal {w v r} h := by
    rw [readFlag] at h
    split at h
    case h_1 b t hb =>
      split_ifs at h with ht hf
      case pos =>
        cases hr : readTrue t <;> rw [hr] at h <;> cases h
        exact ⟨b, t, _, hb, by rw [ht]; rfl, readWord_eq_ok_iff.mp hr, by rw [ht]; exact hr⟩
      case pos =>
        cases hr : readFalse t <;> rw [hr] at h <;> cases h
        exact ⟨b, t, _, hb, by rw [hf]; rfl, readWord_eq_ok_iff.mp hr, by rw [hf]; exact hr⟩
    case h_2 => contradiction

theorem digits_cons (n : Nat) : ∃ b bs, encode (Nat.toDigits 10 n) = b :: bs ∧ isDigit b = true := by
  have h := isInteger_toDigits n
  rcases h.leads with hz | ⟨b, bs, hb, _⟩
  · exact ⟨0x30, [], hz, rfl⟩
  · exact ⟨b, bs, hb, h.digits b (hb ▸ List.mem_cons_self)⟩

theorem toNatural_eq_ok {x : Number} {limit n : Nat} {expected : Expected}
    (h : x.toNatural limit expected = .ok n) : x = .integer n ∧ n < limit := by
  unfold Number.toNatural at h
  split at h
  case h_1 m =>
    split_ifs at h with hm
    cases h
    exact ⟨rfl, hm⟩
  all_goals contradiction

theorem integerOf_true_ne (m n : Nat) : integerOf true m ≠ .integer n := by
  intro h
  rw [integerOf, if_pos rfl] at h
  split_ifs at h with hm
  have hn := Number.integer.inj h
  omega

theorem reads_readNatural {limit : Nat} (hl : limit ≤ UInt64.size) (expected : Expected) :
    Reads (readNatural limit expected) (Kind.Means (.natural limit)) where
  brings {u n g rest} h hg hr := by
    have ⟨hu, hn⟩ : u = encode (Nat.toDigits 10 n) ∧ n < limit := h
    have ⟨b, bs, hb, hd⟩ := digits_cons n
    have hw := readNumber_written false (n := n) (by rw [maxSignificand]; omega) hr
    rw [hb, List.cons_append] at hw
    rw [hu, hb, List.cons_append, readNatural, hg.skipBlanks_cons (isBlankByte_of_isDigit hd)]
    simp only [if_neg (ne_of_isDigit hd (c := 0x2D) rfl), if_pos hd, hw]
    simp [integerOf, Number.toNatural, hn, Except.map]
  literal {w n r} h := by
    rw [readNatural] at h
    split at h
    case h_2 => contradiction
    case h_1 x q hx =>
      cases hq : x.toNatural limit expected <;> rw [hq] at h <;> cases h
      have ⟨hn, hlt⟩ := toNatural_eq_ok hq
      subst hn
      split at hx
      case h_2 => contradiction
      case h_1 b t hb =>
        split_ifs at hx with hm hd
        case pos =>
          have ⟨m, hi, _⟩ := readNumber_integer hx
          exact absurd hi (integerOf_true_ne m n)
        case pos =>
          have ⟨m, hi, hw, hr⟩ := readNumber_integer hx
          have hmn : m = n := Int.ofNat.inj (Number.integer.inj hi)
          subst hmn
          have ⟨c, ds, hc, _⟩ := digits_cons m
          rw [hc] at hw
          have ⟨hbc, ht⟩ := List.cons.inj hw
          subst hbc
          refine ⟨b, t, ds, hb, ⟨hc.symm, hlt⟩, ht, ?_⟩
          rw [skipScalar_digit hd, hw, ← hc]
          exact skipNumber_append (skipNumber_integer (isInteger_toDigits m)) hr

theorem Reads.optional (h : Reads item Means)
    (ho : ∀ w v, Means w v → ∃ b t, w = b :: t ∧ isBlankByte b = false ∧ b ≠ 0x6E) :
    Reads (readOptional item) (OrNull Means) where
  brings {u v g rest} hv hg hr := by
    cases v
    case none =>
      rw [show u = nullWord from hv, nullWord, List.cons_append, readOptional, hg.skipBlanks_cons rfl]
      rfl
    case some v =>
      have hm : Means u v := hv
      obtain ⟨b, t, hu, hb, hn⟩ := ho u v hm
      have hs : skipBlanks (g ++ (u ++ rest)) = b :: (t ++ rest) := by
        rw [hu, List.cons_append, hg.skipBlanks_cons hb]
      rw [readOptional, hs]
      simp only [if_neg hn, h.brings hm hg hr]
      rfl
  literal {w v r} hw := by
    rw [readOptional] at hw
    have item_ {w : Bytes} (hw : (item w).map (fun x => (some x.1, x.2)) = .ok (v, r)) :
        ∃ b t u, skipBlanks w = b :: t ∧ OrNull Means (b :: u) v ∧ t = u ++ r ∧
          skipScalar b t = .ok r := by
      cases hi : item w <;> rw [hi] at hw <;> cases hw
      exact h.literal hi
    split at hw
    case h_1 b t hb =>
      split_ifs at hw with hn
      case pos =>
        cases hr : readNull t <;> rw [hr] at hw <;> cases hw
        exact ⟨b, t, _, hb, by rw [hn]; rfl, readWord_eq_ok_iff.mp hr, by rw [hn]; exact hr⟩
      case neg => exact item_ hw
    case h_2 => exact item_ hw

theorem Kind.Means.opens {kind : Kind} {v : kind.Value} (h : kind.Means w v) :
    ∃ b t, w = b :: t ∧ isBlankByte b = false ∧ b ≠ 0x6E := by
  cases kind
  case text =>
    have ⟨t, hw, _⟩ := h
    exact ⟨0x22, t, hw, rfl, by decide⟩
  case natural =>
    have ⟨b, bs, hb, hd⟩ := digits_cons v
    exact ⟨b, bs, h.left.trans hb, isBlankByte_of_isDigit hd, ne_of_isDigit hd rfl⟩
  case flag =>
    cases v <;> exact ⟨_, _, h, by decide, by decide⟩

theorem Kind.reads_optional {kind : Kind} {item : Bytes → Read kind.Value} (h : Reads item kind.Means) :
    Reads (readOptional item) kind.Gives :=
  h.optional fun _ _ => Kind.Means.opens

section Value

variable (h : Reads item Means)
include h

-- Of the text of a value, a reader takes all of it or nothing.
theorem Reads.eq_ok_iff (hu : ValueText u) (hg : IsGap g) (hr : EndsNumber rest) :
    item (g ++ (u ++ rest)) = .ok (v, r) ↔ r = rest ∧ Means u v := by
  constructor
  case mpr =>
    intro ⟨he, hm⟩
    rw [he, h.brings hm hg hr]
  case mp =>
    intro hi
    have ⟨b, t, u', hb, hm, ht, hs⟩ := h.literal hi
    have ⟨c, cs, hc, ho⟩ := hu.isValue.opens
    rw [hg.skipBlanks_append, hc, List.cons_append, skipBlanks_cons ho.blank] at hb
    have ⟨hcb, hct⟩ := List.cons.inj hb
    subst hcb
    have ⟨n, _, hp⟩ := hu.isValue.passed
    have hp := hp 1 [] rest hr
    rw [Nat.add_comm, hc, List.cons_append, hct, skipFrom_scalar (skipBlanks_cons ho.blank) hs] at hp
    cases hp
    rw [ht] at hct
    rw [hc, List.append_cancel_right hct]
    exact ⟨rfl, hm⟩

-- What a reader takes is the text of a value, with blanks before it.
theorem Reads.entryText (hi : item w = .ok (v, r)) : ∃ u, EntryText .list u ∧ w = u ++ r := by
  have ⟨b, t, _, hb, _, _, hs⟩ := h.literal hi
  have ⟨u, hu, ht⟩ := valueText_of_skipScalar hs
  have ⟨g, hg, hw⟩ := exists_gap w
  exact ⟨_, AfterBlanks.entryText ⟨g, _, hg, hu, rfl⟩, by rw [hw, hb, ht]; simp⟩

theorem Reads.functional {v' : α} (hv : Means u v) (hv' : Means u v') : v = v' := by
  have hb := h.brings hv isGap_nil .nil
  rw [h.brings hv' isGap_nil .nil] at hb
  exact (Prod.mk.inj (Except.ok.inj hb)).left.symm

end Value

end

end AccessControl.Json
