import AccessControl.Proofs.Skipping
import AccessControl.Proofs.TokenPlace
import Mathlib.Tactic.SplitIfs

namespace AccessControl

open Json

-- Two outcomes of one kind, with related errors or related results.
inductive Alike (E : ε → ε → Prop) (R : α → β → Prop) : Except ε α → Except ε β → Prop
  | error {e₁ e₂ : ε} (h : E e₁ e₂) : Alike E R (.error e₁) (.error e₂)
  | ok {a : α} {b : β} (h : R a b) : Alike E R (.ok a) (.ok b)

namespace Alike

variable {E E' : ε → ε → Prop} {R : α → β → Prop} {S : γ → δ → Prop} {x : Except ε α} {y : Except ε β}

theorem refl {R : α → α → Prop} (h : ∀ a, R a a) : (x : Except ε α) → Alike Eq R x x
  | .error _ => .error rfl
  | .ok a => .ok (h a)

theorem eq {y : Except ε α} : Alike Eq Eq x y → x = y
  | .error h => congrArg _ h
  | .ok h => congrArg _ h

theorem map {f : α → γ} {g : β → δ} (h : ∀ {a b}, R a b → S (f a) (g b)) :
    Alike E R x y → Alike E S (x.map f) (y.map g)
  | .error he => .error he
  | .ok hr => .ok (h hr)

theorem bind {f : α → Except ε γ} {g : β → Except ε δ} (h : ∀ a b, R a b → Alike E S (f a) (g b)) :
    Alike E R x y → Alike E S (x.bind f) (y.bind g)
  | .error he => .error he
  | .ok hr => h _ _ hr

theorem mono {R' : α → β → Prop} (he : ∀ {a b}, E a b → E' a b) (hr : ∀ {a b}, R a b → R' a b) :
    Alike E R x y → Alike E' R' x y
  | .error h => .error (he h)
  | .ok h => .ok (hr h)

end Alike

namespace TokenPlace

section Relations

variable (p : TokenPlace) (s₁ s₂ : Bytes)

-- Two readers of the two texts, which go on with `s₁` and `s₂` after the colon of the key: both are behind
-- the value, or both on the way to the key, or both behind the key.
inductive Twin : Bytes → Bytes → Prop
  | same {w : Bytes} : Twin w w
  | ahead {w : Bytes} (h : p.Leads w) : Twin (w ++ s₁) (w ++ s₂)
  | colon {g : Bytes} (hg : ∀ b ∈ g, isBlankByte b = true) : Twin (g ++ 0x3A :: s₁) (g ++ 0x3A :: s₂)

-- The same with the blanks passed.
inductive Met : Bytes → Bytes → Prop
  | same {w : Bytes} : Met w w
  | start {b : UInt8} {w : Bytes} (h : p.Start b w) : Met (b :: (w ++ s₁)) (b :: (w ++ s₂))
  | colon : Met (0x3A :: s₁) (0x3A :: s₂)

-- What was read is the same.
inductive Rest : α × Bytes → α × Bytes → Prop
  | intro {v : α} {w₁ w₂ : Bytes} (h : p.Twin s₁ s₂ w₁ w₂) : Rest (v, w₁) (v, w₂)

end Relations

variable {p : TokenPlace} {s₁ s₂ w w₁ w₂ : Bytes} {b : UInt8}

theorem Twin.met (h : p.Twin s₁ s₂ w₁ w₂) : p.Met s₁ s₂ (skipBlanks w₁) (skipBlanks w₂) := by
  cases h
  case same => exact .same
  case ahead h =>
    have ⟨b, r, hs, he⟩ := h.start
    rw [he s₁, he s₂]
    exact .start hs
  case colon hg =>
    rw [skipBlanks_blank hg, skipBlanks_blank hg]
    exact .colon

theorem Met.twin : p.Met s₁ s₂ w₁ w₂ → p.Twin s₁ s₂ w₁ w₂
  | .same => .same
  | .start h => .ahead h.leads
  | .colon => .colon (g := []) (by simp)

theorem Rest.refl (x : α × Bytes) : p.Rest s₁ s₂ x x := .intro .same

section Lexemes

theorem alike_of_steady {f : Bytes → Read α} (h : p.Leads w) (hf : Steady f w) :
    Alike Eq (p.Rest s₁ s₂) (f (w ++ s₁)) (f (w ++ s₂)) := by
  cases hf
  case ended hp _ _ _ => exact absurd rfl (hp 0x22 h.quote_mem).quote
  case settled o u r hw hp hs =>
    have hr : p.Leads r := (hw ▸ h).drop fun b hb => (hp b hb).quote
    have hn : r ≠ [] := fun hn => by
      have := hn ▸ hr.length
      contradiction
    rw [hs s₁ (absurd · hn), hs s₂ (absurd · hn)]
    cases o
    case error e => exact .error rfl
    case ok v => exact .ok (.intro (.ahead hr))

theorem alike_of_passing {f : Bytes → Except ReadError Bytes}
    (h : Alike Eq (p.Rest s₁ s₂) (passing f w₁) (passing f w₂)) :
    Alike Eq (p.Twin s₁ s₂) (f w₁) (f w₂) := by
  rw [passing, passing] at h
  generalize f w₁ = x, f w₂ = y at h ⊢
  cases x <;> cases y <;> cases h
  case error.error h => exact .error h
  case ok.ok h =>
    cases h
    case intro h => exact .ok h

theorem readNumber_alike (negative : Bool) (h : p.Leads w) :
    Alike Eq (p.Rest s₁ s₂) (readNumber negative (w ++ s₁)) (readNumber negative (w ++ s₂)) :=
  alike_of_steady h <| steady_readNumber negative w

theorem skipNumber_alike (h : p.Leads w) :
    Alike Eq (p.Twin s₁ s₂) (skipNumber (w ++ s₁)) (skipNumber (w ++ s₂)) :=
  alike_of_passing <| alike_of_steady h <| steady_skipNumber w

theorem readWord_alike {word : Bytes} (hp : word.all (IsPassed ·) = true) (h : p.Leads w) :
    Alike Eq (p.Twin s₁ s₂) (readWord word (w ++ s₁)) (readWord word (w ++ s₂)) := by
  have hp : ∀ b ∈ word, IsPassed b := fun b hb => of_decide_eq_true <| List.all_eq_true.mp hp b hb
  exact alike_of_passing <| alike_of_steady h <| steady_readWord hp w

theorem readNull_alike (h : p.Leads w) :
    Alike Eq (p.Twin s₁ s₂) (readNull (w ++ s₁)) (readNull (w ++ s₂)) :=
  readWord_alike rfl h

theorem readTrue_alike (h : p.Leads w) :
    Alike Eq (p.Twin s₁ s₂) (readTrue (w ++ s₁)) (readTrue (w ++ s₂)) :=
  readWord_alike rfl h

theorem readFalse_alike (h : p.Leads w) :
    Alike Eq (p.Twin s₁ s₂) (readFalse (w ++ s₁)) (readFalse (w ++ s₂)) :=
  readWord_alike rfl h

theorem readString_alike (h : p.Start 0x22 w) :
    Alike Eq (p.Rest s₁ s₂) (readString (w ++ s₁)) (readString (w ++ s₂)) := by
  cases h
  case key =>
    rw [readString_key, readString_key]
    exact .ok (.intro (.colon p.blank₁))
  case byte hb _ => exact absurd rfl hb
  case string h hc =>
    rcases readString_leads hc h with ⟨e, he⟩ | ⟨v, hv⟩
    · rw [he, he]
      exact .error rfl
    · rw [hv, hv]
      exact .ok (.intro (.ahead h))

theorem skipString_alike (h : p.Start 0x22 w) :
    Alike Eq (p.Twin s₁ s₂) (skipString (w ++ s₁)) (skipString (w ++ s₂)) := by
  cases h
  case key =>
    rw [skipString_key, skipString_key]
    exact .ok (.colon p.blank₁)
  case byte hb _ => exact absurd rfl hb
  case string h hc =>
    rcases skipString_leads hc h with ⟨e, he⟩ | hv
    · rw [he, he]
      exact .error rfl
    · rw [hv, hv]
      exact .ok (.ahead h)

end Lexemes

section Punctuation

-- What follows inside of a bracket is the same, with `R` between what is left of it.
inductive NextAlike (p : TokenPlace) (s₁ s₂ : Bytes) (R : Bytes → Bytes → Prop) : Next → Next → Prop
  | stop {w₁ w₂ : Bytes} (h : p.Twin s₁ s₂ w₁ w₂) : NextAlike p s₁ s₂ R (.stop w₁) (.stop w₂)
  | entry {w₁ w₂ : Bytes} (h : R w₁ w₂) : NextAlike p s₁ s₂ R (.entry w₁) (.entry w₂)

-- Two readers that are inside of the quotes of a key.
inductive Inside (p : TokenPlace) (s₁ s₂ : Bytes) : Bytes → Bytes → Prop
  | same {w : Bytes} : Inside p s₁ s₂ w w
  | start {w : Bytes} (h : p.Start 0x22 w) : Inside p s₁ s₂ (w ++ s₁) (w ++ s₂)

theorem nextItem_alike (first : Bool) (h : p.Twin s₁ s₂ w₁ w₂) :
    Alike Eq (p.NextAlike s₁ s₂ (p.Twin s₁ s₂)) (nextItem first w₁) (nextItem first w₂) := by
  have hm := h.met
  rw [nextItem, nextItem]
  generalize skipBlanks w₁ = x, skipBlanks w₂ = y at hm ⊢
  cases hm
  case same =>
    refine .refl (fun n => ?_) _
    cases n
    case stop => exact .stop .same
    case entry => exact .entry .same
  case colon =>
    cases first
    case true => exact .ok (.entry (.colon (g := []) (by simp)))
    case false => exact .error rfl
  case start b w h =>
    dsimp only
    split_ifs with hb hf hc
    · exact .ok (.stop (.ahead (h.rest (hb ▸ by decide))))
    · exact .ok (.entry (.ahead h.leads))
    · obtain ⟨c, r, hs, he⟩ := (h.rest (hc ▸ by decide)).start
      rw [he, he]
      dsimp only
      split_ifs
      · exact .error rfl
      · exact .ok (.entry (.ahead hs.leads))
    · exact .error rfl

theorem nextKey_alike (first : Bool) (h : p.Twin s₁ s₂ w₁ w₂) :
    Alike Eq (p.NextAlike s₁ s₂ (p.Inside s₁ s₂)) (nextKey first w₁) (nextKey first w₂) := by
  have hm := h.met
  rw [nextKey, nextKey]
  generalize skipBlanks w₁ = x, skipBlanks w₂ = y at hm ⊢
  cases hm
  case same =>
    refine .refl (fun n => ?_) _
    cases n
    case stop => exact .stop .same
    case entry => exact .entry .same
  case colon => cases first <;> exact .error rfl
  case start b w h =>
    dsimp only
    split_ifs with hb hf hq hc
    · exact .ok (.stop (.ahead (h.rest (hb ▸ by decide))))
    · exact .ok (.entry (.start (hq ▸ h)))
    · exact .error rfl
    · obtain ⟨c, r, hs, he⟩ := (h.rest (hc ▸ by decide)).start
      rw [he, he]
      dsimp only
      split_ifs with hq
      · exact .ok (.entry (.start (hq ▸ hs)))
      · exact .error rfl
      · exact .error rfl
    · exact .error rfl

-- A colon that is met on the way is not the one after the key.
theorem readColon_alike (h : p.Leads w) :
    Alike Eq (fun x y => ∃ r, p.Leads r ∧ x = r ++ s₁ ∧ y = r ++ s₂)
      (readColon (w ++ s₁)) (readColon (w ++ s₂)) := by
  have ⟨b, r, hs, he⟩ := h.start
  rw [readColon, readColon, he, he]
  dsimp only
  split_ifs with hc
  · exact .ok ⟨r, hs.rest (hc ▸ by decide), rfl, rfl⟩
  · exact .error rfl

theorem readColon_key (q : Bytes) : readColon (p.gap₁ ++ 0x3A :: q) = .ok q := by
  rw [readColon, skipBlanks_blank p.blank₁]
  rfl

theorem readEnd_alike (h : p.Twin s₁ s₂ w₁ w₂) : readEnd w₁ = readEnd w₂ := by
  have hm := h.met
  rw [readEnd, readEnd]
  generalize skipBlanks w₁ = x, skipBlanks w₂ = y at hm ⊢
  cases hm <;> rfl

theorem readListEnd_alike (h : p.Twin s₁ s₂ w₁ w₂) :
    Alike Eq (p.Twin s₁ s₂) (readListEnd w₁) (readListEnd w₂) := by
  have hm := h.met
  rw [readListEnd, readListEnd]
  generalize skipBlanks w₁ = x, skipBlanks w₂ = y at hm ⊢
  cases hm
  case same => exact .refl (fun _ => .same) _
  case colon => exact .error rfl
  case start b w h =>
    dsimp only
    split_ifs with hb hc
    · exact .ok (.ahead (h.rest (hb ▸ by decide)))
    · have ⟨c, r, hs, he⟩ := (h.rest (hc ▸ by decide)).start
      rw [he, he]
      dsimp only
      split_ifs <;> exact .error rfl
    · exact .error rfl

end Punctuation

section Typed

-- The start of a value, as far as a message shows it.
def foundAt (b : UInt8) (rest : Bytes) : Except ReadError Found :=
  if b = 0x6E then (readNull rest).map fun _ => .null
  else if b = 0x74 then (readTrue rest).map fun _ => .bool true
  else if b = 0x66 then (readFalse rest).map fun _ => .bool false
  else if b = 0x22 then (readString rest).map fun (s, _) => .string s
  else if b = 0x2D then (readNumber true rest).map fun (n, _) => .number n
  else if isDigit b then (readNumber false (b :: rest)).map fun (n, _) => .number n
  else if b = 0x5B then .ok .sequence
  else if b = 0x7B then .ok .map
  else .error .expectedValue

theorem mismatch_eq (expected : Expected) (bytes : Bytes) :
    mismatch expected bytes =
      match skipBlanks bytes with
      | [] => .eofValue
      | b :: rest =>
        match foundAt b rest with
        | .ok f => .wrongType f expected
        | .error e => e := rfl

theorem foundAt_start (h : p.Start b w) : foundAt b (w ++ s₁) = foundAt b (w ++ s₂) := by
  rw [foundAt, foundAt]
  split_ifs with hn ht hf hq hm hd hl ho
  · exact (readNull_alike (h.rest (hn ▸ by decide))).map (S := Eq) (fun _ => rfl) |>.eq
  · exact (readTrue_alike (h.rest (ht ▸ by decide))).map (S := Eq) (fun _ => rfl) |>.eq
  · exact (readFalse_alike (h.rest (hf ▸ by decide))).map (S := Eq) (fun _ => rfl) |>.eq
  · exact (readString_alike (hq ▸ h)).map (S := Eq) (fun (.intro _) => rfl) |>.eq
  · have hr := h.rest (hm ▸ by decide)
    exact (readNumber_alike true hr).map (S := Eq) (fun (.intro _) => rfl) |>.eq
  · exact (readNumber_alike false h.leads).map (S := Eq) (fun (.intro _) => rfl) |>.eq
  all_goals rfl

theorem mismatch_twin (expected : Expected) (h : p.Twin s₁ s₂ w₁ w₂) :
    mismatch expected w₁ = mismatch expected w₂ := by
  have hm := h.met
  rw [mismatch_eq, mismatch_eq]
  generalize skipBlanks w₁ = x, skipBlanks w₂ = y at hm ⊢
  cases hm
  case same => rfl
  case colon => rfl
  case start b w h =>
    have hf : foundAt b (w ++ s₁) = foundAt b (w ++ s₂) := foundAt_start h
    dsimp only
    rw [hf]

theorem readText_alike (expected : Expected) (h : p.Twin s₁ s₂ w₁ w₂) :
    Alike Eq (p.Rest s₁ s₂) (readText expected w₁) (readText expected w₂) := by
  have hm := h.met
  rw [readText, readText, mismatch_twin expected h]
  generalize skipBlanks w₁ = x, skipBlanks w₂ = y at hm ⊢
  cases hm
  case same => exact .refl .refl _
  case colon => exact .error rfl
  case start b w h =>
    dsimp only
    split_ifs with hq
    · exact readString_alike (hq ▸ h)
    · exact .error rfl

theorem readFlag_alike (h : p.Twin s₁ s₂ w₁ w₂) :
    Alike Eq (p.Rest s₁ s₂) (readFlag w₁) (readFlag w₂) := by
  have hm := h.met
  rw [readFlag, readFlag, mismatch_twin .flag h]
  generalize skipBlanks w₁ = x, skipBlanks w₂ = y at hm ⊢
  cases hm
  case same => exact .refl .refl _
  case colon => exact .error rfl
  case start b w h =>
    dsimp only
    split_ifs with ht hf
    · exact (readTrue_alike (h.rest (ht ▸ by decide))).map .intro
    · exact (readFalse_alike (h.rest (hf ▸ by decide))).map .intro
    · exact .error rfl

-- A number of any kind, where one of `expected` is called for.
def readAnyNumber (expected : Expected) (bytes : Bytes) : Read Number :=
  match skipBlanks bytes with
  | b :: rest =>
    if b = 0x2D then readNumber true rest
    else if isDigit b then readNumber false (b :: rest)
    else .error (mismatch expected bytes)
  | [] => .error (mismatch expected bytes)

theorem readNatural_eq (limit : Nat) (expected : Expected) (bytes : Bytes) :
    readNatural limit expected bytes =
      (readAnyNumber expected bytes).bind fun (n, r) => (n.toNatural limit expected).map (·, r) := by
  rw [readNatural, readAnyNumber]
  cases skipBlanks bytes
  case nil => rfl
  case cons b rest =>
    dsimp only
    split_ifs
    · cases readNumber true rest <;> rfl
    · cases readNumber false (b :: rest) <;> rfl
    · rfl

theorem readAnyNumber_alike (expected : Expected) (h : p.Twin s₁ s₂ w₁ w₂) :
    Alike Eq (p.Rest s₁ s₂) (readAnyNumber expected w₁) (readAnyNumber expected w₂) := by
  have hm := h.met
  rw [readAnyNumber, readAnyNumber, mismatch_twin expected h]
  generalize skipBlanks w₁ = x, skipBlanks w₂ = y at hm ⊢
  cases hm
  case same => exact .refl .refl _
  case colon => exact .error rfl
  case start b w h =>
    dsimp only
    split_ifs with hm
    · exact readNumber_alike true (h.rest (hm ▸ by decide))
    · exact readNumber_alike false h.leads
    · exact .error rfl

theorem readNatural_alike (limit : Nat) (expected : Expected) (h : p.Twin s₁ s₂ w₁ w₂) :
    Alike Eq (p.Rest s₁ s₂) (readNatural limit expected w₁) (readNatural limit expected w₂) := by
  rw [readNatural_eq, readNatural_eq]
  refine (readAnyNumber_alike expected h).bind fun (n, _) _ (.intro hr) => ?_
  dsimp only
  cases n.toNatural limit expected
  case error => exact .error rfl
  case ok => exact .ok (.intro hr)

theorem readSome_alike {x y : Read α} (h : Alike Eq (p.Rest s₁ s₂) x y) :
    Alike Eq (p.Rest s₁ s₂) (x.map fun (v, rest) => (some v, rest))
      (y.map fun (v, rest) => (some v, rest)) :=
  h.map fun (.intro h) => .intro h

theorem readOptional_alike {item : Bytes → Read α} (h : p.Twin s₁ s₂ w₁ w₂)
    (hi : Alike Eq (p.Rest s₁ s₂) (item w₁) (item w₂)) :
    Alike Eq (p.Rest s₁ s₂) (readOptional item w₁) (readOptional item w₂) := by
  have hs := readSome_alike hi
  have hm := h.met
  rw [readOptional, readOptional]
  generalize skipBlanks w₁ = x, skipBlanks w₂ = y at hm ⊢
  cases hm
  case same =>
    cases x
    case nil => exact hs
    case cons b w =>
      dsimp only
      split_ifs
      · exact .refl .refl _
      · exact hs
  case colon => exact hs
  case start b w h =>
    dsimp only
    split_ifs with hn
    · exact (readNull_alike (h.rest (hn ▸ by decide))).map .intro
    · exact hs

end Typed

section Skip

-- Behind a colon there may be the value itself.
inductive AfterColon (p : TokenPlace) (s₁ s₂ : Bytes) : Bytes → Bytes → Prop
  | twin {w₁ w₂ : Bytes} (h : p.Twin s₁ s₂ w₁ w₂) : AfterColon p s₁ s₂ w₁ w₂
  | value : AfterColon p s₁ s₂ s₁ s₂

theorem skipKey_alike (h : p.Twin s₁ s₂ w₁ w₂) :
    Alike Eq (p.AfterColon s₁ s₂) (skipKey w₁) (skipKey w₂) := by
  have hm := h.met
  rw [skipKey_eq, skipKey_eq]
  generalize skipBlanks w₁ = x, skipBlanks w₂ = y at hm ⊢
  cases hm
  case same => exact .refl (fun _ => .twin .same) _
  case colon => exact .error rfl
  case start b w h =>
    dsimp only
    split_ifs with hb
    case neg => exact .error rfl
    case pos =>
      cases h
      case key =>
        simp only [skipString_key, Except.bind, readColon_key]
        exact .ok .value
      case byte hn _ => exact absurd hb hn
      case string h hc =>
        rcases skipString_leads hc h with ⟨e, he⟩ | hr
        · rw [he, he]
          exact .error rfl
        · rw [hr, hr]
          exact (readColon_alike h).mono id fun ⟨_, h, hx, hy⟩ => hx ▸ hy ▸ .twin (.ahead h)

theorem skipScalar_alike (h : p.Start b w) :
    Alike Eq (p.Twin s₁ s₂) (skipScalar b (w ++ s₁)) (skipScalar b (w ++ s₂)) := by
  rw [skipScalar, skipScalar]
  split_ifs with hn ht hf hm hd hq
  · exact readNull_alike (h.rest (hn ▸ by decide))
  · exact readTrue_alike (h.rest (ht ▸ by decide))
  · exact readFalse_alike (h.rest (hf ▸ by decide))
  · exact skipNumber_alike (h.rest (hm ▸ by decide))
  · exact skipNumber_alike h.leads
  · exact skipString_alike (hq ▸ h)
  · exact .error rfl

section Step

variable {fuel : Nat}
  (hi : ∀ cursor stack w₁ w₂, p.Twin s₁ s₂ w₁ w₂ →
    Alike Eq (p.Twin s₁ s₂) (skipFrom fuel cursor stack w₁) (skipFrom fuel cursor stack w₂))
include hi

theorem skipOn_alike (stack : List Bracket) (h : p.Twin s₁ s₂ w₁ w₂) :
    Alike Eq (p.Twin s₁ s₂) (skipOn fuel stack w₁) (skipOn fuel stack w₂) := by
  rw [skipOn, skipOn]
  split_ifs
  · exact .ok h
  · exact hi (.inside true) stack w₁ w₂ h

theorem skipEntry_alike (hv : ∀ stack, skipFrom fuel .value stack s₁ = skipFrom fuel .value stack s₂)
    (top : Bracket) (stack : List Bracket) (h : p.Twin s₁ s₂ w₁ w₂) :
    Alike Eq (p.Twin s₁ s₂) (skipEntry fuel top stack w₁) (skipEntry fuel top stack w₂) := by
  cases top
  case list => exact hi .value (.list :: stack) w₁ w₂ h
  case object =>
    refine (skipKey_alike h).bind fun x y h => ?_
    cases h
    case twin h => exact hi .value (.object :: stack) x y h
    case value => exact hv (.object :: stack) ▸ .refl (fun _ => .same) _

end Step

theorem skipFrom_alike (hv : ∀ fuel stack, skipFrom fuel .value stack s₁ = skipFrom fuel .value stack s₂)
    (fuel : Nat) (cursor : Cursor) (stack : List Bracket) (w₁ w₂ : Bytes) (h : p.Twin s₁ s₂ w₁ w₂) :
    Alike Eq (p.Twin s₁ s₂) (skipFrom fuel cursor stack w₁) (skipFrom fuel cursor stack w₂) := by
  induction fuel generalizing cursor stack w₁ w₂
  case zero => exact .error rfl
  case succ fuel hi =>
    have hm := h.met
    cases cursor
    case value =>
      rw [skipFrom_value, skipFrom_value]
      generalize skipBlanks w₁ = x, skipBlanks w₂ = y at hm ⊢
      cases hm
      case same => exact .refl (fun _ => .same) _
      case colon => exact .error rfl
      case start b w h =>
        dsimp only
        split_ifs with hl ho
        · exact hi _ _ _ _ (.ahead (h.rest (hl ▸ by decide)))
        · exact hi _ _ _ _ (.ahead (h.rest (ho ▸ by decide)))
        · exact (skipScalar_alike h).bind fun _ _ h => skipOn_alike hi stack h
    case inside comma =>
      cases stack
      case nil => exact .ok h
      case cons top stack =>
        rw [skipFrom_inside, skipFrom_inside]
        generalize skipBlanks w₁ = x, skipBlanks w₂ = y at hm ⊢
        cases hm
        case same => exact .refl (fun _ => .same) _
        case colon =>
          cases comma
          case true => exact .error rfl
          case false => exact skipEntry_alike hi (hv fuel) top stack (.colon (g := []) (by simp))
        case start b w h =>
          dsimp only
          split_ifs with hb hc _ hf
          · have hq : b ≠ 0x22 := by rcases hb with ⟨hb, -⟩ | ⟨hb, -⟩ <;> subst hb <;> decide
            exact skipOn_alike hi stack (.ahead (h.rest hq))
          · exact .error rfl
          · exact .error rfl
          · have hb : b = 0x2C := Decidable.not_not.mp fun hb => hc ⟨hf, hb⟩
            exact skipEntry_alike hi (hv fuel) top stack (.ahead (h.rest (hb ▸ by decide)))
          · exact skipEntry_alike hi (hv fuel) top stack (.ahead h.leads)

end Skip

end TokenPlace

end AccessControl
