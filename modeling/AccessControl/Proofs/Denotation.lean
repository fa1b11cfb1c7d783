import AccessControl.Proofs.Numeral
import AccessControl.Proofs.RoundTrip
import AccessControl.Proofs.Steps

namespace AccessControl.Json

-- The text of a value, with brackets nested `depth` deep at most.
inductive Denotes : (depth : Nat) → Bytes → Json → Prop
  | null : Denotes depth nullWord .null
  | flag (b : Bool) : Denotes depth (flagWord b) (.bool b)
  | number {n : Numeral} {x : Number} (h : n.value false = .ok x) : Denotes depth n.text (.number x)
  | negative {n : Numeral} {x : Number} (h : n.value true = .ok x) : Denotes depth (0x2D :: n.text) (.number x)
  | string {w : Bytes} {s : String} (h : SpellsText w s) : Denotes depth (0x22 :: w) (.string s)
  | list {close : Bytes} {xs : List (Spaced × Json)} (hc : IsGap close)
    (h : ∀ x ∈ xs, Denotes depth x.1.value x.2) :
    Denotes (depth + 1) (bracketed .list (row [] (fun x => x.1.text) xs) close) (.array (xs.map (·.2)))
  | object {close : Bytes} {ms : List (Member × String × Json)} (hc : IsGap close)
    (hk : ∀ m ∈ ms, SpellsText m.1.key m.2.1) (h : ∀ m ∈ ms, Denotes depth m.1.item.value m.2.2) :
    Denotes (depth + 1) (bracketed .object (row [] (fun m => m.1.text) ms) close) (ofMembers (ms.map (·.2)))

-- Blanks may stand around the value of a text.
def DenotesText (depth : Nat) (w : Bytes) (v : Json) : Prop :=
  ∃ x : Spaced, w = x.text ∧ Denotes depth x.value v

section

variable {α β : Type} {text : α → Bytes} {item : Bytes → Read β} {P : Bytes → β → Prop} {first : Bool} {fuel : Nat}
  {g r t close rest w : Bytes}

-- The entries that are still to come, behind the blanks that the one before them leaves.
def ahead (text : α → Bytes) (g : Bytes) (xs : List α) : (first : Bool) → Bytes
  | true => row [] text xs
  | false => g ++ entries [] text xs

theorem isGap_ahead (hg : IsGap g) (first : Bool) : IsGap (ahead text g [] first) := by
  cases first
  case true => exact isGap_nil
  case false => simpa [ahead, entries] using hg

theorem standsNext_ahead (text : α → Bytes) {x : α} {xs : List α} {k : Bytes} (hg : IsGap g) (hk : IsGap k)
    (hx : text x = k ++ t) :
    StandsNext first (ahead text g (x :: xs) first ++ w) (t ++ (entries [] text xs ++ w)) := by
  refine ⟨k, hk, ?_⟩
  cases first
  case true => simp [ahead, row, hx]
  case false => exact ⟨g, hg, by simp [ahead, entries, hx]⟩

theorem Opens.append (h : Opens t) (w : Bytes) : Opens (t ++ w) := by
  obtain ⟨b, bs, ht, hb⟩ := h
  exact ⟨b, bs ++ w, by simp [ht], hb⟩

theorem nextItem_of_stands (h : StandsNext first w t) (ho : Opens t) : nextItem first w = .ok (.entry t) := by
  obtain ⟨g, hg, hw⟩ := h
  cases first
  case true =>
    rw [if_pos rfl] at hw
    simpa [hw] using nextItem_first hg ho []
  case false =>
    obtain ⟨k, hk, hw⟩ := hw
    rw [hw, nextItem_gap hk]
    simpa using nextItem_comma hg ho []

theorem nextKey_of_stands (h : StandsNext first w (0x22 :: t)) : nextKey first w = .ok (.entry t) := by
  obtain ⟨g, hg, hw⟩ := h
  cases first
  case true =>
    rw [if_pos rfl] at hw
    rw [hw, nextKey_first hg]
  case false =>
    obtain ⟨k, hk, hw⟩ := hw
    rw [hw, nextKey_gap hk, nextKey_comma hg]

theorem readItems_ahead {xs : List (Spaced × β)} (first : Bool) (acc : List β) (hg : IsGap g) (hc : IsGap close)
    (ho : ∀ x ∈ xs, Opens x.1.value) (hi : ∀ x ∈ xs, Brings item x.1.value x.2) (hf : xs.length < fuel) :
    readItems item first acc fuel (ahead (fun x => x.1.text) g xs first ++ (close ++ 0x5D :: rest)) =
      .ok (acc.reverse ++ xs.map (·.2), rest) := by
  induction xs generalizing first acc fuel g
  case nil =>
    obtain ⟨fuel, hn⟩ := Nat.exists_eq_succ_of_ne_zero (Nat.ne_of_gt hf)
    rw [hn, ← List.append_assoc, readItems_stop (nextItem_end ((isGap_ahead hg first).append hc) first)]
    simp
  case cons x xs hj =>
    obtain ⟨fuel, hn⟩ := Nat.exists_eq_succ_of_ne_zero (Nat.ne_of_gt <| Nat.zero_lt_of_lt hf)
    obtain ⟨hx, ho⟩ := List.forall_mem_cons.mp ho
    obtain ⟨hv, hi⟩ := List.forall_mem_cons.mp hi
    let onward := entries [] (fun x : Spaced × β => x.1.text) xs ++ (close ++ 0x5D :: rest)
    have hs : nextItem first (ahead (fun x => x.1.text) g (x :: xs) first ++ (close ++ 0x5D :: rest)) =
        .ok (.entry (x.1.value ++ x.1.after ++ onward)) :=
      nextItem_of_stands (standsNext_ahead _ hg x.1.blank₁ rfl) ((hx.append _).append _)
    have he : EndsNumber onward := endsNumber_entries [] _ (hc.endsNumber (endsNumber_listEnd rest)) xs
    have hr := hv _ (x.1.blank₂.endsNumber he)
    rw [← List.append_assoc] at hr
    rw [hn, readItems_entry hs hr]
    simpa [ahead, onward] using hj false (x.2 :: acc) x.1.blank₂ ho hi (Nat.lt_of_succ_lt_succ (hn ▸ hf))

theorem readMember_spelled {m : Member} {key : String} {v : β} (hk : SpellsText m.key key)
    (hv : Brings item (m.item.before ++ m.item.value) v) (hr : EndsNumber rest) :
    readMember item (m.key ++ (m.middle ++ 0x3A :: m.item.text) ++ rest) = .ok ((key, v), m.item.after ++ rest) := by
  have hv := hv _ (m.item.blank₂.endsNumber hr)
  have hw : m.key ++ (m.middle ++ 0x3A :: m.item.text) ++ rest =
      m.key ++ (m.middle ++ 0x3A :: (m.item.before ++ m.item.value ++ (m.item.after ++ rest))) := by
    simp [Spaced.text]
  rw [hw, readMember, readString_spelled hk]
  simp only [bind, Except.bind, readColon_append m.blank₂, hv]
  rfl

theorem readMembers_ahead {ms : List (Member × String × β)} (first : Bool) (acc : List (String × β)) (hg : IsGap g)
    (hc : IsGap close) (hk : ∀ m ∈ ms, SpellsText m.1.key m.2.1)
    (hi : ∀ m ∈ ms, Brings item (m.1.item.before ++ m.1.item.value) m.2.2) (hf : ms.length < fuel) :
    readMembers item first acc fuel (ahead (fun m => m.1.text) g ms first ++ (close ++ 0x7D :: rest)) =
      .ok (acc.reverse ++ ms.map (·.2), rest) := by
  induction ms generalizing first acc fuel g
  case nil =>
    obtain ⟨fuel, hn⟩ := Nat.exists_eq_succ_of_ne_zero (Nat.ne_of_gt hf)
    rw [hn, ← List.append_assoc, readMembers_stop (nextKey_end ((isGap_ahead hg first).append hc) first)]
    simp
  case cons m ms hj =>
    obtain ⟨fuel, hn⟩ := Nat.exists_eq_succ_of_ne_zero (Nat.ne_of_gt <| Nat.zero_lt_of_lt hf)
    obtain ⟨hx, hk⟩ := List.forall_mem_cons.mp hk
    obtain ⟨hv, hi⟩ := List.forall_mem_cons.mp hi
    let onward := entries [] (fun m : Member × String × β => m.1.text) ms ++ (close ++ 0x7D :: rest)
    have hs : nextKey first (ahead (fun m => m.1.text) g (m :: ms) first ++ (close ++ 0x7D :: rest)) =
        .ok (.entry (m.1.key ++ (m.1.middle ++ 0x3A :: m.1.item.text) ++ onward)) :=
      nextKey_of_stands (standsNext_ahead (fun m : Member × String × β => m.1.text) hg m.1.blank₁ rfl)
    have he : EndsNumber onward := endsNumber_entries [] _ (hc.endsNumber (endsNumber_objectEnd rest)) ms
    rw [hn, readMembers_entry hs (readMember_spelled hx hv he)]
    simpa [ahead, onward] using hj false (m.2 :: acc) m.1.item.blank₂ hk hi (Nat.lt_of_succ_lt_succ (hn ▸ hf))

end

section

variable {depth fuel : Nat} {g r w : Bytes} {v : Json}

theorem length_bracketed (top : Bracket) (row close : Bytes) : row.length < (bracketed top row close).length := by
  simp only [bracketed, List.length_cons, List.length_append]
  omega

theorem Spaced.length_value_le (x : Spaced) : x.value.length ≤ x.text.length := by
  simp only [text, List.length_append]
  omega

theorem Member.length_value_le (m : Member) : m.item.value.length ≤ m.text.length := by
  have := m.item.length_value_le
  simp only [text, List.length_append, List.length_cons]
  omega

theorem Numeral.text_cons (n : Numeral) : ∃ b bs, n.text = b :: bs ∧ isDigit b = true := by
  have hi := n.isInteger
  rcases hi.leads with hz | ⟨b, bs, hb, _⟩
  · exact ⟨0x30, _, by rw [text, hz]; rfl, rfl⟩
  · exact ⟨b, _, by rw [text, hb]; rfl, hi.digits b (hb ▸ List.mem_cons_self)⟩

theorem Denotes.opens (h : Denotes depth w v) : Opens w := by
  cases h
  case number n x h =>
    obtain ⟨b, bs, hb, hd⟩ := n.text_cons
    exact ⟨b, bs, hb, opensValue_of_isDigit hd⟩
  case flag b => cases b <;> exact ⟨_, _, rfl, by decide, by decide⟩
  all_goals exact ⟨_, _, rfl, by decide, by decide⟩

theorem readValue_gap (hg : IsGap g) (w : Bytes) : readValue fuel depth (g ++ w) = readValue fuel depth w := by
  rw [readValue.eq_def, readValue.eq_def fuel depth w, hg.skipBlanks_append]

theorem Brings.gap (hg : IsGap g) (h : Brings (readValue fuel depth) w v) :
    Brings (readValue fuel depth) (g ++ w) v := by
  intro rest hr
  rw [List.append_assoc, readValue_gap hg, h rest hr]

-- By induction on how the value is denoted; a bracket runs its reader of entries over what is ahead.
theorem Denotes.brings (h : Denotes depth w v) (hf : w.length < fuel) : Brings (readValue fuel depth) w v := by
  induction h
  case null =>
    intro rest _
    rw [readValue.eq_def]
    rfl
  case flag b =>
    intro rest _
    rw [readValue.eq_def]
    cases b <;> rfl
  case number depth n x h =>
    intro rest hr
    obtain ⟨b, bs, hb, hd⟩ := n.text_cons
    have hn := n.readNumber_append false (.of_endsNumber n hr)
    rw [hb, List.cons_append] at hn ⊢
    rw [readValue_digit fuel depth _ hd, hn, h]
    rfl
  case negative depth n x h =>
    intro rest hr
    have hn := n.readNumber_append true (.of_endsNumber n hr)
    rw [List.cons_append, readValue_minus, hn, h]
    rfl
  case string depth w s h =>
    intro rest _
    rw [List.cons_append, readValue_quote, readString_spelled h]
    rfl
  case list depth close xs hc h hi =>
    intro rest _
    have ho : ∀ x ∈ xs, Opens x.1.value := fun x hx => (h x hx).opens
    have hn : xs.length ≤ (row [] (fun x => x.1.text) xs).length := length_le_row [] _ fun x hx =>
      List.append_ne_nil_of_right_ne_nil _ <| List.append_ne_nil_of_left_ne_nil (ho x hx).ne_nil _
    have hw := length_bracketed .list (row [] (fun x => x.1.text) xs) close
    have hv : ∀ x ∈ xs, Brings (readValue fuel depth) x.1.value x.2 := fun x hx =>
      hi x hx (by have := length_entry_le_row [] (fun x => x.1.text) hx; have := x.1.length_value_le; omega)
    have hr : readItems (readValue fuel depth) true [] fuel
        (row [] (fun x => x.1.text) xs ++ (close ++ 0x5D :: rest)) = .ok (xs.map (·.2), rest) :=
      readItems_ahead true [] isGap_nil hc ho hv (by omega)
    rw [bracketed_append, Bracket.opening, Bracket.closing, readValue_bracket, hr]
    rfl
  case object depth close ms hc hk h hi =>
    intro rest _
    have hn : ms.length ≤ (row [] (fun m => m.1.text) ms).length := length_le_row [] _ fun m _ =>
      List.append_ne_nil_of_right_ne_nil _ (List.cons_ne_nil _ _)
    have hw := length_bracketed .object (row [] (fun m => m.1.text) ms) close
    have hv : ∀ m ∈ ms, Brings (readValue fuel depth) (m.1.item.before ++ m.1.item.value) m.2.2 := fun m hm =>
      (hi m hm (by have := length_entry_le_row [] (fun m => m.1.text) hm; have := m.1.length_value_le; omega)).gap
        m.1.item.blank₁
    have hr : readMembers (readValue fuel depth) true [] fuel
        (row [] (fun m => m.1.text) ms ++ (close ++ 0x7D :: rest)) = .ok (ms.map (·.2), rest) :=
      readMembers_ahead true [] isGap_nil hc hk hv (by omega)
    rw [bracketed_append, Bracket.opening, Bracket.closing, readValue_brace, hr]
    rfl

section

variable {α β : Type} {item : Bytes → Read β} {P : Bytes → β → Prop} {first : Bool} {n : Nat} {t : Bytes}

theorem StandsNext.ahead (h : StandsNext first w t) :
    ∃ k g, IsGap k ∧ IsGap g ∧ ∀ (text : α → Bytes) (x : α) (xs : List α) (u : Bytes),
      g ++ t = text x ++ (entries [] text xs ++ u) → w = Json.ahead text k (x :: xs) first ++ u := by
  obtain ⟨g, hg, hw⟩ := h
  cases first
  case true =>
    refine ⟨[], g, isGap_nil, hg, fun text x xs u he => ?_⟩
    rw [if_pos rfl, he] at hw
    simp [hw, Json.ahead, row]
  case false =>
    obtain ⟨k, hk, hw⟩ := hw
    refine ⟨k, g, hk, hg, fun text x xs u he => ?_⟩
    rw [he] at hw
    simp [hw, Json.ahead, entries]

theorem ahead_nil (text : α → Bytes) (first : Bool) : ahead text [] [] first = [] := by
  cases first <;> rfl

-- Whatever a reader takes is such a text, with blanks before it.
structure Sound (item : Bytes → Read β) (P : Bytes → β → Prop) : Prop where
  text : ∀ {w v r}, item w = .ok (v, r) → ∃ g u, IsGap g ∧ w = g ++ (u ++ r) ∧ P u v

-- By induction on the items that a reader has come to.
theorem Sound.readItems (hi : Sound item P) {acc vs : List β} (h : readItems item first acc n w = .ok (vs, r)) :
    ∃ (g close : Bytes) (xs : List (Spaced × β)), IsGap g ∧ IsGap close ∧ (∀ x ∈ xs, P x.1.value x.2) ∧
      vs = acc.reverse ++ xs.map (·.2) ∧ w = ahead (fun x => x.1.text) g xs first ++ (close ++ 0x5D :: r) := by
  induction n generalizing first acc w
  case zero => contradiction
  case succ n hj =>
    rw [Json.readItems] at h
    cases hn : nextItem first w <;> simp only [hn] at h
    case error => contradiction
    case ok next =>
      have hs := stands_of_nextItem hn
      cases next
      case stop =>
        cases h
        obtain ⟨g, hg, hw⟩ := hs
        exact ⟨[], g, [], isGap_nil, hg, by simp, by simp, by rw [ahead_nil]; exact hw⟩
      case entry t =>
        cases ht : item t <;> simp only [ht] at h
        case error => contradiction
        case ok x =>
          obtain ⟨b, u, hb, htu, hu⟩ := hi.text ht
          obtain ⟨a, close, xs, ha, hc, hxs, hvs, hr⟩ := hj h
          obtain ⟨k, g, hk, hg, hw⟩ := hs.ahead (α := Spaced × β)
          let y : Spaced := ⟨g ++ b, u, a, hg.append hb, ha⟩
          refine ⟨k, close, (y, x.1) :: xs, hk, hc, List.forall_mem_cons.mpr ⟨hu, hxs⟩, by simp [hvs], ?_⟩
          apply hw
          simp [htu, hr, ahead, Spaced.text, y]

theorem Sound.readMember (hi : Sound item P) {key : String} {v : β} (h : readMember item w = .ok ((key, v), r)) :
    ∃ k m b u, SpellsText k key ∧ IsGap m ∧ IsGap b ∧ P u v ∧ w = k ++ (m ++ 0x3A :: (b ++ (u ++ r))) := by
  simp only [Json.readMember, bind, Except.bind] at h
  cases hk : readString w <;> simp only [hk] at h
  case error => contradiction
  case ok x =>
    cases hc : readColon x.2 <;> simp only [hc] at h
    case error => contradiction
    case ok t =>
      cases hv : item t <;> simp only [hv] at h
      case error => contradiction
      case ok y =>
        cases h
        obtain ⟨k, hs, hw⟩ := spellsText_of_readString hk
        obtain ⟨m, hm, hx⟩ := gap_of_readColon hc
        obtain ⟨b, u, hb, ht, hu⟩ := hi.text hv
        exact ⟨k, m, b, u, hs, hm, hb, hu, by rw [hw, hx, ht]⟩

-- By induction on the members that a reader has come to.
theorem Sound.readMembers (hi : Sound item P) {acc vs : List (String × β)}
    (h : readMembers item first acc n w = .ok (vs, r)) :
    ∃ (g close : Bytes) (ms : List (Member × String × β)), IsGap g ∧ IsGap close ∧
      (∀ m ∈ ms, SpellsText m.1.key m.2.1) ∧ (∀ m ∈ ms, P m.1.item.value m.2.2) ∧
        vs = acc.reverse ++ ms.map (·.2) ∧ w = ahead (fun m => m.1.text) g ms first ++ (close ++ 0x7D :: r) := by
  induction n generalizing first acc w
  case zero => contradiction
  case succ n hj =>
    rw [Json.readMembers] at h
    cases hn : nextKey first w <;> simp only [hn] at h
    case error => contradiction
    case ok next =>
      have hs := stands_of_nextKey hn
      cases next
      case stop =>
        cases h
        obtain ⟨g, hg, hw⟩ := hs
        exact ⟨[], g, [], isGap_nil, hg, by simp, by simp, by simp, by rw [ahead_nil]; exact hw⟩
      case entry t =>
        cases ht : Json.readMember item t <;> simp only [ht] at h
        case error => contradiction
        case ok x =>
          obtain ⟨key, m, b, u, hkey, hm, hb, hu, htu⟩ := hi.readMember ht
          obtain ⟨a, close, ms, ha, hc, hks, hms, hvs, hr⟩ := hj h
          obtain ⟨k, g, hk, hg, hw⟩ := hs.ahead (α := Member × String × β)
          let y : Member := ⟨g, key, m, ⟨b, u, a, hb, ha⟩, hg, hm⟩
          refine ⟨k, close, (y, x.1) :: ms, hk, hc, List.forall_mem_cons.mpr ⟨hkey, hks⟩,
            List.forall_mem_cons.mpr ⟨hu, hms⟩, by simp [hvs], ?_⟩
          apply hw
          simp [htu, hr, ahead, Member.text, Spaced.text, y]

end

theorem sound_step (hi : ∀ d, depth = d + 1 → Sound (readValue fuel d) (Denotes d)) :
    Sound (readValue fuel depth) (Denotes depth) where
  text {w v r} h := by
    obtain ⟨g, hg, hw⟩ := exists_gap w
    rw [readValue.eq_def] at h
    cases hb : skipBlanks w <;> simp only [hb] at h
    case nil => contradiction
    case cons b t =>
      rw [hb] at hw
      subst hw
      split_ifs at h with hn ht hf hs hm hd hl ho
      · cases hr : readNull t <;> rw [hr] at h <;> cases h
        exact ⟨g, nullWord, hg, by rw [hn, readWord_eq_ok_iff.mp hr]; rfl, .null⟩
      · cases hr : readTrue t <;> rw [hr] at h <;> cases h
        exact ⟨g, flagWord true, hg, by rw [ht, readWord_eq_ok_iff.mp hr]; rfl, .flag true⟩
      · cases hr : readFalse t <;> rw [hr] at h <;> cases h
        exact ⟨g, flagWord false, hg, by rw [hf, readWord_eq_ok_iff.mp hr]; rfl, .flag false⟩
      · cases hr : readString t <;> rw [hr] at h <;> cases h
        obtain ⟨u, hu, hx⟩ := spellsText_of_readString hr
        exact ⟨g, _, hg, by rw [hs, hx]; rfl, .string hu⟩
      · cases hr : readNumber true t <;> rw [hr] at h <;> cases h
        obtain ⟨n, hx, hv⟩ := exists_numeral hr
        exact ⟨g, _, hg, by rw [hm, hx]; rfl, .negative hv⟩
      · cases hr : readNumber false (b :: t) <;> rw [hr] at h <;> cases h
        obtain ⟨n, hx, hv⟩ := exists_numeral hr
        exact ⟨g, _, hg, by rw [hx], .number hv⟩
      · cases depth
        case zero => contradiction
        case succ depth =>
          cases hr : readItems (readValue fuel depth) true [] fuel t <;> simp only [hr] at h <;> cases h
          obtain ⟨k, close, xs, _, hc, hxs, hvs, hx⟩ := (hi depth rfl).readItems hr
          refine ⟨g, bracketed .list (row [] (fun x => x.1.text) xs) close, hg, ?_, ?_⟩
          · simp [hl, hx, bracketed, ahead, Bracket.opening, Bracket.closing]
          · simpa [hvs] using Denotes.list hc hxs
      · cases depth
        case zero => contradiction
        case succ depth =>
          cases hr : readMembers (readValue fuel depth) true [] fuel t <;> simp only [hr] at h <;> cases h
          obtain ⟨k, close, ms, _, hc, hks, hms, hvs, hx⟩ := (hi depth rfl).readMembers hr
          refine ⟨g, bracketed .object (row [] (fun m => m.1.text) ms) close, hg, ?_, ?_⟩
          · simp [ho, hx, bracketed, ahead, Bracket.opening, Bracket.closing]
          · simpa [hvs] using Denotes.object hc hks hms

-- By induction on the depth that brackets may still have.
theorem sound_readValue (fuel depth : Nat) : Sound (readValue fuel depth) (Denotes depth) := by
  induction depth
  case zero => exact sound_step nofun
  case succ depth hi =>
    refine sound_step ?_
    rintro d ⟨⟩
    exact hi

-- Reading a text comes to a value exactly when the text denotes it.
theorem read_eq_ok_iff : read w = .ok v ↔ DenotesText maxDepth w v := by
  constructor
  case mp =>
    intro h
    simp only [read, bind, Except.bind] at h
    cases hv : readValue (w.length + 1) maxDepth w <;> simp only [hv] at h
    case error => contradiction
    case ok x =>
      cases he : readEnd x.2 <;> simp only [he] at h
      case error => contradiction
      case ok =>
        cases h
        obtain ⟨g, u, hg, hw, hu⟩ := (sound_readValue _ _).text hv
        exact ⟨⟨g, u, x.2, hg, readEnd_eq_ok_iff.mp he⟩, hw, hu⟩
  case mpr =>
    rintro ⟨x, hw, h⟩
    have hl : x.value.length < w.length + 1 := by
      have := x.length_value_le
      rw [hw]
      omega
    have hr := h.brings hl x.after (by simpa using x.blank₂.endsNumber .nil)
    rw [read, hw, Spaced.text, readValue_gap x.blank₁, ← Spaced.text, ← hw, hr]
    simp only [bind, Except.bind, readEnd_eq_ok_iff.mpr x.blank₂]
    rfl

-- A value that is written and can be read back is denoted by its text.
theorem denotesText_written (h : Restorable depth v) : DenotesText depth (written v) v := by
  have hr := readValue_written h (Nat.lt_succ_self _) [] .nil
  rw [List.append_nil] at hr
  obtain ⟨g, u, hg, hw, hu⟩ := (sound_readValue _ _).text hr
  exact ⟨⟨g, u, [], hg, isGap_nil⟩, hw, hu⟩

end

end AccessControl.Json
