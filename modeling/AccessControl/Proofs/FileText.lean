import AccessControl.Proofs.ObjectText
import AccessControl.Proofs.Reloading

namespace AccessControl

open Json

-- An item of a list.
structure Item extends Spaced where
  valued : ValueText value

namespace Item

def text (x : Item) : Bytes :=
  x.toSpaced.text

def lead {g : Bytes} (x : Item) (hg : IsGap g) : Item :=
  { x with before := g ++ x.before, blank₁ := hg.append x.blank₁ }

theorem text_lead {g : Bytes} (x : Item) (hg : IsGap g) : (x.lead hg).text = g ++ x.text := by
  simp only [lead, text, Spaced.text, List.append_assoc]

end Item

-- A text that is one list.
structure ListText where
  before : Bytes
  items : List Item
  close : Bytes
  after : Bytes
  blank₁ : IsGap before
  blank₂ : IsGap close
  blank₃ : IsGap after

namespace ListText

def text (l : ListText) : Bytes :=
  l.before ++ (bracketed .list (row [] Item.text l.items) l.close ++ l.after)

-- The keys in their order, each with the text of its value.
def settings (l : ListText) : List (SettingKey × Bytes) :=
  SettingKey.all.zip (l.items.map (·.value))

-- The list is no longer than the keys are, and each value is one of its key's kind.
structure Fits (l : ListText) : Prop where
  length : l.items.length ≤ SettingKey.all.length
  given : ∀ p ∈ l.settings, ∃ v, p.1.kind.Gives p.2 v

end ListText

namespace Settings

section Items

variable {s s' : Settings} {key : SettingKey} {keys seen : List SettingKey} {first : Bool} {x : Item} {xs : List Item}
  {g close rest r w : Bytes}

theorem item_append (x : Item) (w : Bytes) : x.text ++ w = x.before ++ (x.value ++ (x.after ++ w)) := by
  simp [Item.text, Spaced.text]

theorem Once.of_keys (hn : (key :: keys).Nodup) (hs : ∀ k ∈ key :: keys, k ∉ seen) :
    key ∉ seen ∧ keys.Nodup ∧ ∀ k ∈ keys, k ∉ key :: seen := by
  have ⟨hk, hn⟩ := List.nodup_cons.mp hn
  have ⟨hf, hs⟩ := List.forall_mem_cons.mp hs
  refine ⟨hf, hn, fun k hm => List.not_mem_cons_of_ne_of_not_mem ?_ (hs k hm)⟩
  rintro rfl
  exact hk hm

-- One item, however far the one before it has been read.
theorem readItems_cons {q : Bytes} {ps : List (SettingKey × Bytes)} (hf : key ∉ seen) (hr : EndsNumber rest)
    (hn : nextItem first w = .ok (.entry (x.value ++ (x.after ++ rest)))) {P : Prop}
    (hi : ∀ s, readItems false s keys (x.after ++ rest) = .ok (s', r) ↔ r = q ∧ P ∧ Assigns (key :: seen) s ps s') :
    readItems first s (key :: keys) w = .ok (s', r) ↔ r = q ∧ P ∧ Assigns seen s ((key, x.value) :: ps) s' := by
  rw [readItems_eq, hn]
  refine (readSetting_bind x.valued isGap_nil (x.blank₂.endsNumber hr)).trans ?_
  simp only [hi]
  constructor
  case mp =>
    intro ⟨v, hv, hq, hp, h⟩
    exact ⟨hq, hp, .cons hf hv h⟩
  case mpr =>
    intro ⟨hq, hp, h⟩
    cases h
    case cons hv h => exact ⟨_, hv, hq, hp, h⟩

theorem readItems_stop (hn : nextItem first w = .ok (.stop rest)) :
    readItems first s (key :: keys) w = .ok (s', r) ↔ r = rest ∧ s' = s := by
  rw [readItems_eq, hn]
  simp [Except.bind, eq_comm, and_comm]

theorem endsNumber_items (hc : IsGap close) (xs : List Item) (rest : Bytes) :
    EndsNumber (entries [] Item.text xs ++ (close ++ 0x5D :: rest)) :=
  endsNumber_entries [] Item.text (hc.endsNumber (endsNumber_listEnd rest)) xs

theorem entries_items_cons (x : Item) (xs : List Item) (w : Bytes) :
    entries [] Item.text (x :: xs) ++ w =
      0x2C :: (x.before ++ (x.value ++ (x.after ++ (entries [] Item.text xs ++ w)))) := by
  rw [← item_append]
  simp only [entries, List.flatMap_cons, List.cons_append, List.append_assoc, List.nil_append]

-- When no key is left, the list must end.
theorem readListEnd_eq_ok_iff (hg : IsGap g) (hc : IsGap close) :
    readListEnd (g ++ (entries [] Item.text xs ++ (close ++ 0x5D :: rest))) = .ok r ↔ r = rest ∧ xs = [] := by
  rw [readListEnd, hg.skipBlanks_append]
  cases xs
  case nil =>
    rw [show entries [] Item.text [] = [] from rfl, List.nil_append, hc.skipBlanks_cons rfl]
    simp [eq_comm]
  case cons x xs =>
    rw [entries_items_cons, skipBlanks_cons rfl]
    generalize x.before ++ _ = w
    cases hw : skipBlanks w
    case nil => simp [hw]
    case cons c t =>
      simp only [hw]
      split_ifs <;> simp_all

-- The items after the first one, by induction on the keys that are left.
theorem readItems_entries (hg : IsGap g) (hc : IsGap close) (hn : keys.Nodup) (hs : ∀ k ∈ keys, k ∉ seen) :
    readItems false s keys (g ++ (entries [] Item.text xs ++ (close ++ 0x5D :: rest))) = .ok (s', r) ↔
      r = rest ∧ xs.length ≤ keys.length ∧ Assigns seen s (keys.zip (xs.map (·.value))) s' := by
  induction keys generalizing g seen s xs
  case nil =>
    rw [Settings.readItems, List.zip_nil_left, assigns_nil_iff, List.length_nil, Nat.le_zero,
      List.length_eq_zero_iff]
    constructor
    case mp =>
      intro h
      cases hx : readListEnd (g ++ (entries [] Item.text xs ++ (close ++ 0x5D :: rest))) <;> rw [hx] at h <;> cases h
      obtain ⟨hr, hxs⟩ := (readListEnd_eq_ok_iff hg hc).mp hx
      exact ⟨hr, hxs, rfl⟩
    case mpr =>
      rintro ⟨hr, hxs, hs⟩
      rw [(readListEnd_eq_ok_iff hg hc).mpr ⟨hr, hxs⟩, hs]
      rfl
  case cons key keys hi =>
    obtain ⟨hf, hn, hs⟩ := Once.of_keys hn hs
    cases xs
    case nil =>
      have he : nextItem false (g ++ ([] ++ (close ++ 0x5D :: rest))) = .ok (.stop rest) := by
        rw [nextItem_gap hg, List.nil_append, nextItem_end hc]
      rw [show entries [] Item.text [] = [] from rfl, readItems_stop he]
      simp
    case cons x xs =>
      have he : nextItem false (g ++ (entries [] Item.text (x :: xs) ++ (close ++ 0x5D :: rest))) =
          .ok (.entry (x.value ++ (x.after ++ (entries [] Item.text xs ++ (close ++ 0x5D :: rest))))) := by
        rw [nextItem_gap hg, entries_items_cons, nextItem_comma x.blank₁ x.valued.isValue.opens]
      rw [readItems_cons hf (endsNumber_items hc xs rest) he fun s => hi x.blank₂ hn hs]
      simp

theorem readItems_row (hc : IsGap close) (hn : (key :: keys).Nodup) :
    readItems true s (key :: keys) (row [] Item.text xs ++ (close ++ 0x5D :: rest)) = .ok (s', r) ↔
      r = rest ∧ xs.length ≤ (key :: keys).length ∧ Assigns [] s ((key :: keys).zip (xs.map (·.value))) s' := by
  have hs : ∀ k ∈ key :: keys, k ∉ ([] : List SettingKey) := fun _ _ => List.not_mem_nil
  have ⟨hf, hn, hs⟩ := Once.of_keys hn hs
  cases xs
  case nil =>
    rw [row, List.nil_append, readItems_stop (nextItem_end hc true)]
    simp
  case cons x xs =>
    have he : nextItem true (row [] Item.text (x :: xs) ++ (close ++ 0x5D :: rest)) =
        .ok (.entry (x.value ++ (x.after ++ (entries [] Item.text xs ++ (close ++ 0x5D :: rest))))) := by
      rw [row, List.nil_append, List.append_assoc, item_append, nextItem_first x.blank₁ x.valued.isValue.opens]
    rw [readItems_cons hf (endsNumber_items hc xs rest) he fun s => readItems_entries x.blank₂ hc hn hs]
    simp

theorem once_zip (hn : keys.Nodup) (hs : ∀ k ∈ keys, k ∉ seen) (ws : List Bytes) : Once seen (keys.zip ws) := by
  induction keys generalizing seen ws
  case nil => exact ⟨List.nodup_nil, nofun⟩
  case cons key keys hi =>
    have ⟨hf, hn, hs⟩ := Once.of_keys hn hs
    cases ws
    case nil => exact ⟨List.nodup_nil, nofun⟩
    case cons w ws => exact once_cons_iff.mpr ⟨hf, hi hn hs ws⟩

end Items

theorem nodup_all : SettingKey.all.Nodup := by
  decide

theorem ofText_list_eq_ok_iff (l : ListText) {s : Settings} :
    ofText l.text = .ok s ↔ l.items.length ≤ SettingKey.all.length ∧ Assigns [] {} l.settings s := by
  have hb : skipBlanks l.text = 0x5B :: (row [] Item.text l.items ++ (l.close ++ 0x5D :: l.after)) := by
    rw [ListText.text, bracketed_append, Bracket.opening, l.blank₁.skipBlanks_cons rfl]
    rfl
  have hn : (0x5B : UInt8) ≠ 0x7B := by decide
  rw [ofText_eq_ok_iff, readFront, hb]
  simp only [if_neg hn, if_pos]
  simp only [SettingKey.all, readItems_row l.blank₂ nodup_all]
  simp [l.blank₃, ListText.settings, SettingKey.all]

-- A list that fits gives settings, and no other list does.
theorem ofText_list (l : ListText) : (∃ s, ofText l.text = .ok s) ↔ l.Fits := by
  have ho : Once [] l.settings := once_zip nodup_all (fun _ _ => List.not_mem_nil) _
  simp only [ofText_list_eq_ok_iff, exists_and_left, exists_assigns_iff]
  exact ⟨fun h => ⟨h.left, h.right.right⟩, fun h => ⟨h.length, ho, h.given⟩⟩

section Sound

variable {s s' : Settings} {seen keys : List SettingKey} {length fuel : Nat} {first : Bool} {r w : Bytes}

theorem item_of_entryText {u : Bytes} (h : EntryText .list u) : ∃ x : Item, u = x.text := by
  cases h
  case item x h => exact ⟨⟨x, h⟩, rfl⟩

-- A member from its colon on.
theorem item_of_readMember {key : Option SettingKey} (h : s.readMember length key w = .ok (s', r)) :
    ∃ g, IsGap g ∧ ∃ x : Item, w = g ++ 0x3A :: (x.text ++ r) := by
  rw [readMember] at h
  cases hc : readColon w <;> simp only [hc] at h
  case error => contradiction
  case ok v =>
    obtain ⟨g, hg, hw⟩ := gap_of_readColon hc
    obtain ⟨u, hu, hv⟩ : ∃ u, EntryText .list u ∧ v = u ++ r := by
      cases key
      case some k => exact entryText_of_readSetting h
      case none =>
        cases hs : skipValue length v <;> rw [hs] at h <;> cases h
        obtain ⟨u, hu, hv⟩ := afterBlanks_of_skipValue hs
        exact ⟨u, hu.entryText, hv⟩
    obtain ⟨x, hx⟩ := item_of_entryText hu
    exact ⟨g, hg, x, by rw [hw, hv, hx]⟩

def MemberText (e : Bytes) : Prop :=
  ∃ m : NamedMember, e = m.text

def ItemText (e : Bytes) : Prop :=
  ∃ x : Item, e = x.text

-- By induction on the members that a reader has come to.
theorem rest_of_readMembers (h : readMembers length seen first s fuel w = .ok (s', r)) :
    ∃ u, Rest MemberText 0x7D (!first) u ∧ w = u ++ r := by
  induction fuel generalizing seen first s w
  case zero => contradiction
  case succ fuel hi =>
    rw [readMembers_eq] at h
    cases hn : nextKey first w <;> rw [hn] at h
    case error => contradiction
    case ok next =>
      have hs := stands_of_nextKey hn
      cases next
      case stop =>
        cases h
        obtain ⟨g, hg, hw⟩ := hs
        exact ⟨_, .close hg, by simpa using hw⟩
      case entry t =>
        dsimp only [Except.bind] at h
        cases ht : readString t <;> simp only [ht] at h
        case error => contradiction
        case ok x =>
          obtain ⟨k, hk, htk⟩ := spellsText_of_readString ht
          rw [readNamed] at h
          split_ifs at h
          cases hm : s.readMember length (SettingKey.ofName? x.1) x.2 <;> rw [hm] at h
          case error => contradiction
          case ok y =>
            obtain ⟨m, hm, i, hx⟩ := item_of_readMember hm
            refine hs.rest (fun g hg => ?_) (hi h)
            refine ⟨_, ⟨⟨⟨g, k, m, i.toSpaced, hg, hm⟩, x.1, hk, i.valued⟩, rfl⟩, ?_⟩
            rw [text_append, htk, hx]
            rfl

theorem gap_of_readListEnd (h : readListEnd w = .ok r) : ∃ g, IsGap g ∧ w = g ++ 0x5D :: r := by
  have ⟨g, hg, hw⟩ := exists_gap w
  rw [readListEnd] at h
  cases hb : skipBlanks w <;> simp only [hb] at h
  case nil => contradiction
  case cons b v =>
    rw [hb] at hw
    split_ifs at h with hc hm
    · cases h
      exact ⟨g, hg, hc ▸ hw⟩
    · split at h
      case h_1 => split_ifs at h
      case h_2 => contradiction

-- By induction on the keys that are left.
theorem rest_of_readItems (h : readItems first s keys w = .ok (s', r)) :
    ∃ u, Rest ItemText 0x5D (!first) u ∧ w = u ++ r := by
  induction keys generalizing first s w
  case nil =>
    rw [Settings.readItems] at h
    cases hl : readListEnd w <;> rw [hl] at h <;> cases h
    obtain ⟨g, hg, hw⟩ := gap_of_readListEnd hl
    exact ⟨_, .close hg, by simpa using hw⟩
  case cons key keys hi =>
    rw [readItems_eq] at h
    cases hn : nextItem first w <;> rw [hn] at h
    case error => contradiction
    case ok next =>
      have hs := stands_of_nextItem hn
      cases next
      case stop =>
        cases h
        obtain ⟨g, hg, hw⟩ := hs
        exact ⟨_, .close hg, by simpa using hw⟩
      case entry t =>
        dsimp only [Except.bind] at h
        cases ht : s.readSetting key t <;> simp only [ht] at h
        case error => contradiction
        case ok x =>
          obtain ⟨u, hu, htu⟩ := entryText_of_readSetting ht
          obtain ⟨y, hy⟩ := item_of_entryText hu
          refine hs.rest (fun g hg => ⟨_, ⟨y.lead hg, rfl⟩, ?_⟩) (hi h)
          rw [htu, hy, Item.text_lead, List.nil_append, List.append_assoc]

theorem MemberText.trail {e : Bytes} (h : MemberText e) (hg : IsGap g) : MemberText (e ++ g) := by
  have ⟨m, he⟩ := h
  refine ⟨{ m with item := m.item.trail hg }, ?_⟩
  rw [he, NamedMember.text, NamedMember.text, ← Member.text_trail]

theorem ItemText.trail {e : Bytes} (h : ItemText e) (hg : IsGap g) : ItemText (e ++ g) := by
  have ⟨x, he⟩ := h
  refine ⟨⟨x.toSpaced.trail hg, x.valued⟩, ?_⟩
  rw [he, Item.text, Item.text, Spaced.text_trail]

-- Entries that are texts of this form, in one row of them.
theorem row_of_forall {α : Type} {f : α → Bytes} {es : List Bytes} (h : ∀ e ∈ es, ∃ x, e = f x) :
    ∃ xs : List α, row [] id es = row [] f xs := by
  have ⟨xs, hx⟩ : ∃ xs : List α, es = xs.map f := by
    induction es
    case nil => exact ⟨[], rfl⟩
    case cons e es hi =>
      have ⟨⟨x, he⟩, h⟩ := List.forall_mem_cons.mp h
      have ⟨xs, hx⟩ := hi h
      exact ⟨x :: xs, by rw [he, hx, List.map_cons]⟩
  exact ⟨xs, by rw [hx, row_map, Function.id_comp]⟩

theorem exists_text_of_ofText (h : ofText w = .ok s) :
    (∃ o : ObjectText, o.text = w) ∨ ∃ l : ListText, l.text = w := by
  obtain ⟨r, hf, hr⟩ := ofText_eq_ok_iff.mp h
  obtain ⟨g, hg, hw⟩ := exists_gap w
  rw [readFront] at hf
  cases hb : skipBlanks w <;> simp only [hb] at hf
  case nil => contradiction
  case cons b t =>
    rw [hb] at hw
    split_ifs at hf with ho hl
    · obtain ⟨u, hu, ht⟩ := rest_of_readMembers hf
      obtain ⟨es, c, hc, hes, hu⟩ := hu.row fun e g he hg => MemberText.trail he hg
      obtain ⟨ms, hms⟩ := row_of_forall hes
      refine .inl ⟨⟨g, ms, c, r, hg, hc, hr⟩, ?_⟩
      rw [ObjectText.text, bracketed_append, ← hms, hw, ho, ht, hu]
      simp [Bracket.opening, Bracket.closing]
    · obtain ⟨u, hu, ht⟩ := rest_of_readItems hf
      obtain ⟨es, c, hc, hes, hu⟩ := hu.row fun e g he hg => ItemText.trail he hg
      obtain ⟨xs, hxs⟩ := row_of_forall hes
      refine .inr ⟨⟨g, xs, c, r, hg, hc, hr⟩, ?_⟩
      rw [ListText.text, bracketed_append, ← hxs, hw, hl, ht, hu]
      simp [Bracket.opening, Bracket.closing]

end Sound

-- What is no object text fails to be read, unless it is a list that fits.
theorem ofText_no_object {content : Bytes} (h : ∀ o : ObjectText, o.text ≠ content) :
    (∃ e, ofText content = .error e) ↔ ∀ l : ListText, l.text = content → ¬l.Fits := by
  constructor
  case mp =>
    intro ⟨e, he⟩ l hl hf
    have ⟨s, hs⟩ := (ofText_list l).mpr hf
    rw [hl, he] at hs
    contradiction
  case mpr =>
    intro hl
    cases hs : ofText content
    case error e => exact ⟨e, rfl⟩
    case ok s =>
      rcases exists_text_of_ofText hs with ⟨o, ho⟩ | ⟨l, he⟩
      · exact absurd ho (h o)
      · exact absurd ((ofText_list l).mp ⟨s, he ▸ hs⟩) (hl l he)

end Settings

namespace Resolver

open Settings

variable {r : Resolver} {file : Volume.Reader} {content : Bytes}

-- What cannot be read is not loaded, and after that the resolver has no configuration to show.
theorem load_of_ofText_error {e : ReadError} (hf : file r.path = .ok content) (he : ofText content = .error e)
    (time : Nat) : (r.load file time).1 = false ∧ (r.load file time).2.2.isValid = false := by
  cases hr : r.readConfig file
  case error =>
    rw [load_of_readConfig_error time hr]
    exact ⟨rfl, rfl⟩
  case ok config =>
    obtain ⟨settings, hs, _⟩ := readConfig_eq_ok_iff.mp hr
    obtain ⟨content', hf', ht⟩ := content_of_load hs
    rw [hf] at hf'
    cases hf'
    rw [he] at ht
    contradiction

theorem load_no_object (content : Bytes) (h : ∀ o : ObjectText, o.text ≠ content) :
    ((∃ e, ofText content = .error e) ↔ ∀ l : ListText, l.text = content → ¬l.Fits) ∧
      ((∀ l : ListText, l.text = content → ¬l.Fits) →
        ∀ (r : Resolver) (file : Volume.Reader) (time : Nat), file r.path = .ok content →
          (r.load file time).1 = false ∧ (r.load file time).2.2.isValid = false) := by
  refine ⟨ofText_no_object h, fun hl r file time hf => ?_⟩
  have ⟨e, he⟩ := (ofText_no_object h).mpr hl
  exact load_of_ofText_error hf he time

-- A list of numbers is refused at the first of them, whatever the environment gives.
theorem load_no_object_numbers :
    let content := Utf8.encodeString "[1,2]"
    (∀ o : ObjectText, o.text ≠ content) ∧
      ∀ env : Environment,
        let r := (Resolver.ofEnvironment env).withPath "/c"
        (r.load (fun _ => .ok content) 0).1 = false ∧ (r.load (fun _ => .ok content) 0).2.2.isValid = false := by
  intro content
  have hb : skipBlanks content = 0x5B :: [0x31, 0x2C, 0x32, 0x5D] := by decide +kernel
  have hn : ∀ o : ObjectText, o.text ≠ content := ObjectText.text_ne hb (by decide)
  have ⟨hi, hl⟩ := load_no_object content hn
  have he : ofText content = .error (.wrongType (.number (.integer 1)) .text) := by decide +kernel
  exact ⟨hn, fun env => hl (hi.mp ⟨_, he⟩) _ _ 0 rfl⟩

-- A list of a location and a token is no object, and is loaded.
theorem load_listed :
    let content := Utf8.encodeString "[\"u\",\"t\"]"
    let r := (Resolver.ofEnvironment (.fixed [])).withPath "/c"
    (∀ o : ObjectText, o.text ≠ content) ∧
      ofText content = .ok { apiUrl := some "u", apiToken := some "t" } ∧
      (r.load (fun _ => .ok content) 0).1 = true ∧ (r.load (fun _ => .ok content) 0).2.2.isValid = true := by
  intro content r
  have hb : skipBlanks content = 0x5B :: [0x22, 0x75, 0x22, 0x2C, 0x22, 0x74, 0x22, 0x5D] := by decide +kernel
  have ht : ofText content = .ok { apiUrl := some "u", apiToken := some "t" } := by decide +kernel
  have hs : Settings.load (fun _ => .ok content) "/c" = .ok { apiUrl := some "u", apiToken := some "t" } := by
    rw [load_of_content checkPath_c rfl (by decide +kernel) (by decide +kernel), ht]
    rfl
  have hr : r.readConfig (fun _ => .ok content) = .ok _ :=
    readConfig_eq_ok_iff.mpr ⟨_, hs, rfl, by decide +kernel⟩
  rw [load_of_readConfig 0 hr]
  exact ⟨ObjectText.text_ne hb (by decide), ht, rfl, isValid_of_readConfig hr⟩

end Resolver

end AccessControl
