import AccessControl.CommandLine.Invocation
import AccessControl.Proofs.Coherence

namespace AccessControl
namespace Host
namespace Context

-- The entry gives this value for this key: it is cut at its first equals sign.
structure Gives (key value entry : String) : Prop where
  cut : entry = key ++ "=" ++ value
  first : '=' ∉ key.toList

-- An entry without an equals sign is for no key.
def IsFor (key entry : String) : Prop :=
  ∃ value, Gives key value entry

variable {key value entry : String} {entries before after : List String}

theorem cut_of_not_mem {cs : List Char} (h : '=' ∉ cs) (rest : List Char) :
    (cs ++ '=' :: rest).takeWhile (· != '=') = cs ∧ (cs ++ '=' :: rest).dropWhile (· != '=') = '=' :: rest := by
  have hc : ∀ c ∈ cs, (c != '=') = true := fun c hm => bne_iff_ne.mpr fun he => h (he ▸ hm)
  rw [List.takeWhile_append_of_pos hc, List.dropWhile_append_of_pos hc]
  simp

theorem splitEntry?_eq_some_iff : splitEntry? entry = some (key, value) ↔ Gives key value entry := by
  constructor
  case mp =>
    intro h
    have hw := List.takeWhile_append_dropWhile (p := (· != '=')) (l := entry.toList)
    have hn : '=' ∉ entry.toList.takeWhile (· != '=') := fun hm => by
      simpa using List.all_eq_true.mp (List.all_takeWhile (l := entry.toList)) _ hm
    unfold splitEntry? at h
    cases hd : entry.toList.dropWhile (· != '=') <;> simp only [hd] at h <;> cases h
    case cons c rest =>
      have hc : c = '=' := by
        have hp := List.head_dropWhile_not (· != '=') (hd ▸ List.cons_ne_nil c rest)
        simpa [hd] using hp
      rw [hd, hc] at hw
      refine { cut := String.toList_inj.mp ?_, first := by rwa [String.toList_ofList] }
      simpa using hw.symm
  case mpr =>
    rintro ⟨rfl, hn⟩
    have ⟨ht, hd⟩ := cut_of_not_mem hn value.toList
    have hs : (key ++ "=" ++ value).toList = key.toList ++ '=' :: value.toList := by simp
    unfold splitEntry?
    simp only [hs, ht, hd, String.ofList_toList]

theorem Gives.unique {key' value' : String} (h : Gives key value entry) (h' : Gives key' value' entry) :
    key = key' ∧ value = value' := by
  rw [← splitEntry?_eq_some_iff] at h h'
  simpa using h.symm.trans h'

-- The key that an entry is for.
def key? (entry : String) : Option String :=
  splitEntry? entry |>.map Prod.fst

theorem isFor_iff : IsFor key entry ↔ key? entry = some key := by
  simp [IsFor, key?, ← splitEntry?_eq_some_iff]

instance : DecidablePred (IsFor key) :=
  fun _ => decidable_of_iff _ isFor_iff.symm

theorem IsFor.unique {key' : String} (h : IsFor key entry) (h' : IsFor key' entry) : key = key' :=
  (h.choose_spec.unique h'.choose_spec).left

-- The first of the entries for the key gives this value.
inductive FirstGives (key value : String) : List String → Prop
  | here {entry : String} {entries : List String} (h : Gives key value entry) : FirstGives key value (entry :: entries)
  | later {entry : String} {entries : List String} (hn : ¬IsFor key entry) (h : FirstGives key value entries) :
    FirstGives key value (entry :: entries)

theorem get?_cons_of_gives (h : Gives key value entry) : (ofEntries (entry :: entries)).get? key = some value := by
  rw [get?, ofEntries, List.filterMap_cons_some (splitEntry?_eq_some_iff.mpr h), List.lookup_cons_self]

theorem get?_cons_of_not (h : ¬IsFor key entry) :
    (ofEntries (entry :: entries)).get? key = (ofEntries entries).get? key := by
  rw [get?, get?, ofEntries, ofEntries]
  cases hs : splitEntry? entry
  case none => rw [List.filterMap_cons_none hs]
  case some kv =>
    have hk : (key == kv.1) = false := by
      refine beq_eq_false_iff_ne.mpr fun hk => h ?_
      rw [isFor_iff, key?, hs, Option.map_some, hk]
    rw [List.filterMap_cons_some hs, List.lookup_cons, hk]

theorem get?_eq_some_iff : (ofEntries entries).get? key = some value ↔ FirstGives key value entries := by
  induction entries
  case nil => exact ⟨nofun, nofun⟩
  case cons entry entries hi =>
    by_cases hf : IsFor key entry
    case pos =>
      obtain ⟨v, hv⟩ := hf
      rw [get?_cons_of_gives hv, Option.some.injEq]
      constructor
      case mp => exact fun h => .here (h ▸ hv)
      case mpr =>
        rintro (h | ⟨hn, -⟩)
        · exact (hv.unique h).right
        · exact absurd ⟨v, hv⟩ hn
    case neg =>
      rw [get?_cons_of_not hf, hi]
      constructor
      case mp => exact .later hf
      case mpr =>
        rintro (h | ⟨-, h⟩)
        · exact absurd ⟨value, h⟩ hf
        · exact h

theorem get?_append (entries entries' : List String) :
    (ofEntries (entries ++ entries')).get? key = ((ofEntries entries).get? key).or ((ofEntries entries').get? key) := by
  rw [get?, ofEntries, List.filterMap_append, List.lookup_append]
  rfl

theorem isSome_get?_iff : ((ofEntries entries).get? key).isSome = true ↔ ∃ e ∈ entries, IsFor key e := by
  induction entries
  case nil => simp [ofEntries, get?]
  case cons entry entries hi =>
    by_cases hf : IsFor key entry
    case pos =>
      have ⟨v, hv⟩ := hf
      simp [get?_cons_of_gives hv, hf]
    case neg => simp [get?_cons_of_not hf, hi, hf]

-- Only the entries for the key matter.
theorem get?_filter (entries : List String) :
    (ofEntries (entries.filter (IsFor key ·))).get? key = (ofEntries entries).get? key := by
  induction entries
  case nil => rfl
  case cons entry entries hi =>
    by_cases hf : IsFor key entry
    case pos =>
      have ⟨v, hv⟩ := hf
      rw [List.filter_cons_of_pos (by simpa using hf), get?_cons_of_gives hv, get?_cons_of_gives hv]
    case neg => rw [List.filter_cons_of_neg (by simpa using hf), get?_cons_of_not hf, hi]

-- An entry that comes after one for the same key, or is for another key, is not noticed.
theorem get?_insert (h : IsFor key entry → ∃ e ∈ before, IsFor key e) :
    (ofEntries (before ++ entry :: after)).get? key = (ofEntries (before ++ after)).get? key := by
  rw [get?_append, get?_append]
  by_cases hf : IsFor key entry
  case pos =>
    have ⟨v, hv⟩ := Option.isSome_iff_exists.mp (isSome_get?_iff.mpr (h hf))
    rw [hv, Option.some_or, Option.some_or]
  case neg => rw [get?_cons_of_not hf]

-- Whom a list of entries names: nobody is named by an empty value.
inductive Names (entries : List String) : String → Prop
  | user {name : String} (h : FirstGives "user" name entries) (hn : name ≠ "") : Names entries name
  | username {name : String} (unnamed : ∀ v, FirstGives "user" v entries → v = "")
      (h : FirstGives "username" name entries) (hn : name ≠ "") : Names entries name
  | nobody (unnamed : ∀ v, FirstGives "user" v entries → v = "")
      (nameless : ∀ v, FirstGives "username" v entries → v = "") : Names entries "unknown"

-- The value for a key, unless that is empty.
def named? (c : Context) (key : String) : Option String :=
  (c.get? key).filter (!·.isEmpty)

theorem principal_eq (c : Context) : c.principal = ((c.named? "user").or (c.named? "username")).getD "unknown" := by
  simp only [principal, named?, unknown]
  cases (c.get? "user").filter (!·.isEmpty)
  case none => rw [Option.none_or]; rfl
  case some => rw [Option.some_or]; rfl

theorem named?_eq_some_iff {name : String} :
    (ofEntries entries).named? key = some name ↔ FirstGives key name entries ∧ name ≠ "" := by
  simp [named?, Option.filter_eq_some_iff, get?_eq_some_iff]

theorem named?_eq_none_iff : (ofEntries entries).named? key = none ↔ ∀ v, FirstGives key v entries → v = "" := by
  simp [named?, Option.filter_eq_none_iff, get?_eq_some_iff]

theorem names_principal (entries : List String) : Names entries (ofEntries entries).principal := by
  rw [principal_eq]
  cases hu : (ofEntries entries).named? "user"
  case some name =>
    have ⟨h, hn⟩ := named?_eq_some_iff.mp hu
    exact .user h hn
  case none =>
    have hu := named?_eq_none_iff.mp hu
    cases hs : (ofEntries entries).named? "username"
    case some name =>
      have ⟨h, hn⟩ := named?_eq_some_iff.mp hs
      exact .username hu h hn
    case none => exact .nobody hu (named?_eq_none_iff.mp hs)

theorem principal_eq_of_names {p : String} (h : Names entries p) : (ofEntries entries).principal = p := by
  rw [principal_eq]
  cases h
  case user h hn => rw [named?_eq_some_iff.mpr ⟨h, hn⟩, Option.some_or, Option.getD_some]
  case username hu h hn =>
    rw [named?_eq_none_iff.mpr hu, named?_eq_some_iff.mpr ⟨h, hn⟩, Option.none_or, Option.getD_some]
  case nobody hu hs => rw [named?_eq_none_iff.mpr hu, named?_eq_none_iff.mpr hs, Option.none_or, Option.getD_none]

theorem principal_eq_iff {p : String} : (ofEntries entries).principal = p ↔ Names entries p :=
  ⟨fun h => h ▸ names_principal entries, principal_eq_of_names⟩

theorem principal_congr {c c' : Context} (h : ∀ key ∈ ["user", "username"], c.get? key = c'.get? key) :
    c.principal = c'.principal := by
  have hu := h "user" (by decide)
  have hn := h "username" (by decide)
  rw [principal_eq, principal_eq, named?, named?, named?, named?, hu, hn]

theorem principal_insert (h : ∀ key ∈ ["user", "username"], IsFor key entry → ∃ e ∈ before, IsFor key e) :
    (ofEntries (before ++ entry :: after)).principal = (ofEntries (before ++ after)).principal :=
  principal_congr fun key hk => get?_insert (h key hk)

-- The entries for either key keep their order among themselves; how they stand to one another does not matter.
theorem principal_of_filter {entries' : List String}
    (h : ∀ key ∈ ["user", "username"], entries'.filter (IsFor key ·) = entries.filter (IsFor key ·)) :
    (ofEntries entries').principal = (ofEntries entries).principal := by
  refine principal_congr fun key hk => ?_
  rw [← get?_filter, h key hk, get?_filter]

theorem gives_user (user : String) : Gives "user" user ("user=" ++ user) where
  cut := rfl
  first := by decide

-- One who is named in front is the principal, whatever the entries behind say.
theorem principal_of_user {user : String} (h : user ≠ "") (entries : List String) :
    (ofEntries (("user=" ++ user) :: entries)).principal = user :=
  principal_eq_of_names <| .user (.here (gives_user user)) h

theorem principal_forUser {user : String} (h : user ≠ "") : (forUser user).principal = user :=
  principal_of_user h []

end Context

-- What comes of a check for a principal: this one is reported and asked about, and none is where this one cannot be.
structure Checks (principal : String) (command : List String) {σ : Type} (s : σ) (o : Outcome σ PolicyCheck) : Prop where
  reported : o.value.principal = principal
  evaluated : command ≠ [] → isIdentifier principal = true →
    List.Forall₂ (fun q d => d.Answers principal q) ((questions command).map Query.effective) o.value.decisions
  refused : isIdentifier principal = false →
    o.value.result = .invalidRequest ∧ o.value.decisions = [] ∧ o.effects = [] ∧ o.state = s

namespace Adapter

variable {σ : Type} (adapter : Adapter σ) (call : Call) (command : List String) (context : Context) (s : σ)

theorem checkPolicy_checks : Checks context.principal command s (adapter.checkPolicy call command context s) := by
  have ⟨hp, hd⟩ := adapter.checkPolicy_answers call s command context
  refine { reported := hp, evaluated := ?evaluated, refused := ?refused }
  case evaluated =>
    intro hc hi
    have hn : ¬(command = [] ∨ isIdentifier context.principal = false) := by simp [hc, hi]
    rwa [if_neg hn] at hd
  case refused =>
    intro hi
    cases command <;> simp [checkPolicy, hi]

theorem asks_of_mem_attempts_checkPolicy (ht : adapter.client.transport.Passive) {a : Attempt}
    (h : a ∈ Effect.attempts (adapter.checkPolicy call command context s).effects) :
    Asks a.payload context.principal ((questions command).map Query.effective) := by
  cases hi : isIdentifier context.principal
  case false =>
    rw [((adapter.checkPolicy_checks call command context s).refused hi).2.2.1] at h
    contradiction
  case true =>
    cases command
    case nil => contradiction
    case cons program args =>
      rw [(adapter.checkPolicy_eq call program args s hi).left,
        (adapter.decide_inquires call context.principal program args s).left] at h
      rw [(Client.mem_attempts_request ht h).right]
      exact asks_evaluationPayload ..

end Adapter
end Host

namespace CommandLine

open Host (Context)

-- An option and its value in one word.
def OptionName.word (o : OptionName) (value : String) : String :=
  "--" ++ o.text ++ "=" ++ value

theorem Word.of_word (o : OptionName) (value : String) : Word.of (o.word value) = .long o.text (some value) := by
  have hn : '=' ∉ o.text.toList := by cases o <;> decide
  have ⟨ht, hd⟩ := Context.cut_of_not_mem hn value.toList
  have hs : (o.word value).toList = '-' :: '-' :: (o.text.toList ++ '=' :: value.toList) := by simp [OptionName.word]
  cases hw : o.text.toList ++ '=' :: value.toList
  case nil => simp at hw
  case cons c cs =>
    rw [hw] at ht hd
    simp only [Word.of, hs, hw, hd, ht, String.ofList_toList]

-- What is given by words that name a user among entries that describe him.
def Given.ofUser (user : String) (before after operands : List String) : Given :=
  ⟨before.map (.userInfo, ·) ++ (.user, user) :: after.map (.userInfo, ·), operands⟩

namespace Level

variable {l : Level} {o : OptionName} {g : Given}

-- What the level needs for a word to be read as this option.
structure Knows (l : Level) (o : OptionName) : Prop where
  found : l.options.find? (·.text = o.text) = some o
  takesValue : o.takesValue = true

theorem readFrom_word (h : l.Knows o) (value : String) (rest : List String) :
    l.readFrom none g (o.word value :: rest) = (g.addOption o value).bind fun g => l.readFrom none g rest := by
  rw [readFrom, Word.of_word]
  simp [h.found, h.takesValue]

-- An option that may be repeated and takes every value is taken as often as it is given.
theorem readFrom_words (h : l.Knows o) (hr : o.isRepeatable = true) (ha : ∀ value, o.accepts value = true)
    (values rest : List String) :
    l.readFrom none g (values.map o.word ++ rest) =
      l.readFrom none { g with options := g.options ++ values.map (o, ·) } rest := by
  induction values generalizing g
  case nil => simp
  case cons value values hi =>
    have hg : g.addOption o value = .ok { g with options := g.options ++ [(o, value)] } := by
      simp [Given.addOption, hr, ha]
    rw [List.map_cons, List.cons_append, readFrom_word h, hg]
    simp [Except.bind, hi]

theorem readFrom_separator (hl : l.operands ≠ .subcommand) (ha : l.allows (g.operands ++ rest) = true) :
    l.readFrom none g ("--" :: rest) = .ok { g with operands := g.operands ++ rest } := by
  have hw : Word.of "--" = .separator := by decide +kernel
  rw [readFrom, hw]
  simp [hl, ha]

-- The words of one user, wherever he stands among the entries that describe him.
theorem read_user (hu : l.Knows .user) (hi : l.Knows .userInfo) (hl : l.operands ≠ .subcommand)
    (user : String) (before after operands : List String) (ha : l.allows operands = true) :
    l.read (before.map OptionName.userInfo.word ++ OptionName.user.word user ::
        (after.map OptionName.userInfo.word ++ "--" :: operands)) =
      .ok (.ofUser user before after operands) := by
  let g : Given := ⟨before.map (.userInfo, ·), []⟩
  have hg : g.addOption .user user = .ok ⟨before.map (.userInfo, ·) ++ [(.user, user)], []⟩ := by
    simp [Given.addOption, Given.has, OptionName.accepts, g]
  rw [read, readFrom_words hi rfl fun _ => rfl, Given.empty, List.nil_append, readFrom_word hu, hg, Except.bind,
    readFrom_words hi rfl fun _ => rfl, readFrom_separator hl (by simpa using ha)]
  simp [Given.ofUser]

end Level

namespace Given

variable {user : String} {before after operands : List String} {o : OptionName}

theorem value?_ofUser : (ofUser user before after operands).value? .user = some user := by
  have hb : (before.map (OptionName.userInfo, ·)).lookup .user = none := by simp [List.lookup_eq_none_iff]
  rw [value?, ofUser, List.lookup_append, hb, Option.none_or, List.lookup_cons_self]

theorem value?_ofUser_of_ne (hu : o ≠ .user) (hi : o ≠ .userInfo) :
    (ofUser user before after operands).value? o = none := by
  rw [value?, List.lookup_eq_none_iff]
  simp only [ofUser, List.mem_append, List.mem_cons, List.mem_map]
  rintro p (⟨entry, -, rfl⟩ | rfl | ⟨entry, -, rfl⟩)
  case inr.inl => simp [hu]
  all_goals simp [hi]

end Given

theorem Subcommand.contextOf_principal {g : Given} {user : String} (hg : g.value? .user = some user) (h : user ≠ "") :
    (contextOf g).principal = user := by
  rw [contextOf, hg]
  exact Context.principal_of_user h (g.values .userInfo)

namespace Invocation

theorem read_of_level (subcommand : Subcommand) {rest : List String} {g : Given} {c : Command}
    (hg : subcommand.level.read rest = .ok g) (hc : subcommand.command? g = some c) :
    read (subcommand.text :: rest) = .ok ⟨g.value? .config, g.value? .logFile, c⟩ := by
  have hp : Word.of subcommand.text = .plain := by cases subcommand <;> decide +kernel
  have ht : Subcommand.ofText? subcommand.text = some subcommand := by cases subcommand <;> decide +kernel
  have hf : front.read (subcommand.text :: rest) = .ok ⟨[], subcommand.text :: rest⟩ := by
    rw [Level.read, Level.readFrom, hp]
    rfl
  simp only [read, hf, ht, bind, Except.bind, hg, hc]
  simp [Given.value?, pure, Except.pure]

variable (user : String) (before after : List String)

theorem read_user (subcommand : Subcommand) {operands : List String} {c : Command}
    (hu : subcommand.level.Knows .user) (hi : subcommand.level.Knows .userInfo)
    (hl : subcommand.level.operands ≠ .subcommand) (ha : subcommand.level.allows operands = true)
    (hc : subcommand.command? (.ofUser user before after operands) = some c) :
    read (subcommand.text :: (before.map OptionName.userInfo.word ++ OptionName.user.word user ::
        (after.map OptionName.userInfo.word ++ "--" :: operands))) = .ok ⟨none, none, c⟩ := by
  have hr := read_of_level subcommand (Level.read_user hu hi hl user before after operands ha) hc
  rwa [Given.value?_ofUser_of_ne (by decide) (by decide), Given.value?_ofUser_of_ne (by decide) (by decide)] at hr

theorem read_check {command : List String} (hc : command ≠ []) :
    read ("check" :: (before.map OptionName.userInfo.word ++ OptionName.user.word user ::
        (after.map OptionName.userInfo.word ++ "--" :: command))) =
      .ok ⟨none, none, .check (Subcommand.contextOf (.ofUser user before after command)) command⟩ :=
  read_user user before after .check ⟨rfl, rfl⟩ ⟨rfl, rfl⟩ (by decide)
    (by simpa [Level.allows, Subcommand.level] using hc) rfl

theorem read_list (command : Option String) :
    read ("list" :: (before.map OptionName.userInfo.word ++ OptionName.user.word user ::
        (after.map OptionName.userInfo.word ++ "--" :: command.toList))) =
      .ok ⟨none, none, .list (Subcommand.contextOf (.ofUser user before after command.toList)) command⟩ := by
  refine read_user user before after .list ⟨rfl, rfl⟩ ⟨rfl, rfl⟩ (by decide) ?allowed ?command
  all_goals cases command <;> rfl

end Invocation

end CommandLine

namespace Host

open CommandLine (Given Invocation OptionName Subcommand)
open Context (IsFor Names forUser ofEntries)

-- Whom a list of entries names is settled by the first entries for two keys. A user who is given by himself is named
-- whatever the entries say, and a check is of whoever is named.
theorem principal_settled_by_entries {σ : Type} (entries : List String) (user : String) (adapter : Adapter σ)
    (call : Call) (command : List String) (context : Context) (s : σ) :
    (∀ p, (ofEntries entries).principal = p ↔ Names entries p) ∧
      (∀ before entry after key, entries = before ++ entry :: after → IsFor key entry →
        (∃ e ∈ before, IsFor key e) → (ofEntries (before ++ after)).principal = (ofEntries entries).principal) ∧
      (∀ before entry after, entries = before ++ entry :: after → ¬IsFor "user" entry → ¬IsFor "username" entry →
        (ofEntries (before ++ after)).principal = (ofEntries entries).principal) ∧
      (∀ entries', (∀ key ∈ ["user", "username"], entries'.filter (IsFor key ·) = entries.filter (IsFor key ·)) →
        (ofEntries entries').principal = (ofEntries entries).principal) ∧
      (user ≠ "" →
        (forUser user).principal = user ∧
          (∀ given : Given, given.value? .user = some user → (Subcommand.contextOf given).principal = user) ∧
          ∀ before after : List String, ∃ named : Context, named.principal = user ∧
            let words := before.map OptionName.userInfo.word ++ OptionName.user.word user ::
              after.map OptionName.userInfo.word
            (command ≠ [] →
              Invocation.read ("check" :: (words ++ "--" :: command)) = .ok ⟨none, none, .check named command⟩) ∧
            ∀ asset : Option String,
              Invocation.read ("list" :: (words ++ "--" :: asset.toList)) = .ok ⟨none, none, .list named asset⟩) ∧
      Checks context.principal command s (adapter.checkPolicy call command context s) ∧
      (adapter.client.transport.Passive →
        ∀ a ∈ Effect.attempts (adapter.checkPolicy call command context s).effects,
          Asks a.payload context.principal ((questions command).map Query.effective)) := by
  refine ⟨fun p => Context.principal_eq_iff, ?repeated, ?other, fun entries' h => Context.principal_of_filter h, ?user,
    adapter.checkPolicy_checks call command context s,
    fun ht a ha => adapter.asks_of_mem_attempts_checkPolicy call command context s ht ha⟩
  case repeated =>
    rintro before entry after key rfl hk hb
    exact (Context.principal_insert fun key' _ hk' => hk.unique hk' ▸ hb).symm
  case other =>
    rintro before entry after rfl hu hn
    refine (Context.principal_insert fun key hk hf => ?_).symm
    rcases List.mem_pair.mp hk with rfl | rfl
    · exact absurd hf hu
    · exact absurd hf hn
  case user =>
    intro hu
    refine ⟨Context.principal_forUser hu, fun given hg => Subcommand.contextOf_principal hg hu, fun before after => ?_⟩
    refine ⟨Subcommand.contextOf (.ofUser user before after []),
      Subcommand.contextOf_principal Given.value?_ofUser hu, fun hc => ?_, fun asset => ?_⟩
    · rw [List.append_assoc, List.cons_append]
      exact Invocation.read_check user before after hc
    · rw [List.append_assoc, List.cons_append]
      exact Invocation.read_list user before after asset

example : (ofEntries ["username=bob", "tty", "user=", "user=alice"]).principal = "bob" := by decide +kernel
example : (ofEntries ["cwd=/a=b", "username=bob", "user=a=lice"]).principal = "a=lice" := by decide +kernel

end Host
end AccessControl
