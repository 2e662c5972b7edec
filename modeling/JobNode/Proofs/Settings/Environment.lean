import JobNode.Proofs.Duration.Text
import JobNode.Settings.Environment

/-!
# Settings are what the environment says

Each of the nine variables has its own setting.  An environment whose variables can all be read
determines the settings; one with variables that cannot be read is refused for the first of them.

* `Variable.read_eq_ok_iff`: which texts can be read, and as what.
* `Variable.puts_of_set`: a variable changes its own setting and no other.
* `override_cases`: the variables up to the first that cannot be read.
* `environment_decides`: what becomes of every environment.
-/

namespace JobNode.Settings

/-! ## Values -/

/-- What a variable gives to its setting. -/
inductive Value where
  | text (t : String)
  | number (n : Nat)
  | duration (d : Duration)

/-- The text spells the number: digits of a number below 2⁶⁴, after a plus sign if there is one. -/
def SpellsNumber (text : String) (n : Nat) : Prop :=
  ∃ digits, (text.toList = digits ∨ text.toList = '+' :: digits) ∧
    digits ≠ [] ∧ digits.all Decimal.isDigit = true ∧ Decimal.ofDigits digits = n ∧ n < 2 ^ 64

theorem number?_of_signed {text : String} {rest : List Char} (signed : text.toList = '+' :: rest) :
    Decimal.number? text =
      if rest ≠ [] ∧ rest.all Decimal.isDigit then some (Decimal.ofDigits rest) else none := by
  simp only [Decimal.number?, signed]

theorem number?_of_plain {text : String} (plain : ∀ rest, text.toList ≠ '+' :: rest) :
    Decimal.number? text =
      if text.toList ≠ [] ∧ text.toList.all Decimal.isDigit then some (Decimal.ofDigits text.toList)
      else none := by
  simp only [Decimal.number?]

theorem number?_eq_some_iff {text : String} {n : Nat} :
    Decimal.number? text = some n ↔
      ∃ digits, (text.toList = digits ∨ text.toList = '+' :: digits) ∧
        digits ≠ [] ∧ digits.all Decimal.isDigit = true ∧ Decimal.ofDigits digits = n := by
  constructor
  · intro read
    by_cases sign : ∃ rest, text.toList = '+' :: rest
    · obtain ⟨rest, signed⟩ := sign
      rw [number?_of_signed signed, Option.ite_none_right_eq_some, Option.some.injEq] at read
      exact ⟨rest, .inr signed, read.1.1, read.1.2, read.2⟩
    · rw [number?_of_plain (not_exists.1 sign), Option.ite_none_right_eq_some,
        Option.some.injEq] at read
      exact ⟨_, .inl rfl, read.1.1, read.1.2, read.2⟩
  · rintro ⟨digits, plain | signed, some, digital, rfl⟩
    · have unsigned (rest : List Char) : text.toList ≠ '+' :: rest := by
        intro signed
        rw [← plain, signed] at digital
        cases digital
      rw [number?_of_plain unsigned, plain]
      exact if_pos ⟨some, digital⟩
    · rw [number?_of_signed signed]
      exact if_pos ⟨some, digital⟩

namespace Variable

/-- How the value of a variable is read. -/
inductive Kind where
  | text
  | number
  | duration

/-- How the value of a variable is read. -/
def kind : Variable → Kind
  | databaseUrl | logDirectory | webhookUrl => .text
  | workers | idleWait | webhookTimeout => .number
  | taskValidity | pollInterval | notificationTimeout => .duration

/-- The value that a text is read as. -/
def read (v : Variable) (text : String) : Except SettingsError Value :=
  match v.kind with
  | .text => .ok (.text text)
  | .number => (v.number text).map .number
  | .duration => (duration text).map .duration

/-- The text spells the value. -/
def Spells (v : Variable) (text : String) (value : Value) : Prop :=
  match v.kind with
  | .text => value = .text text
  | .number => ∃ n, SpellsNumber text n ∧ value = .number n
  | .duration => ∃ d, Duration.Spells text d ∧ value = .duration d

/-- What the settings say where a variable puts its value. -/
def setting (v : Variable) (s : Settings) : Option Value :=
  match v with
  | databaseUrl => some (.text s.databaseUrl)
  | logDirectory => s.logDirectory.map .text
  | workers => some (.number s.queue.workers)
  | idleWait => some (.number s.queue.idleWaitMillis)
  | taskValidity => some (.duration s.queue.taskValidity)
  | pollInterval => some (.duration s.jobs.pollInterval)
  | notificationTimeout => some (.duration s.jobs.notificationTimeout)
  | webhookUrl => some (.text s.webhook.url)
  | webhookTimeout => some (.number s.webhook.timeoutSecs)

variable {v : Variable} {text : String} {value : Value} {e : SettingsError} {s : Settings}

theorem number_eq_ok_iff {n : Nat} : v.number text = .ok n ↔ SpellsNumber text n := by
  have word : Duration.maxWord + 1 = 2 ^ 64 := rfl
  unfold number
  constructor
  · intro read
    split at read
    next m spelled =>
      split at read
      next fits =>
        cases read
        obtain ⟨digits, spelling⟩ := number?_eq_some_iff.1 spelled
        exact ⟨digits, spelling.1, spelling.2.1, spelling.2.2.1, spelling.2.2.2, by omega⟩
      · cases read
    · cases read
  · rintro ⟨digits, spelling, some, digital, value, fits⟩
    have spelled := number?_eq_some_iff.2 ⟨digits, spelling, some, digital, value⟩
    have small : n ≤ Duration.maxWord := by omega
    simp only [spelled, if_pos small]

theorem duration_eq_ok_iff {d : Duration} : duration text = .ok d ↔ Duration.Spells text d := by
  rw [← Duration.parse_eq_ok_iff, duration]
  cases Duration.parse text with
  | ok d' => exact ⟨fun eq => by cases eq; rfl, fun eq => by cases eq; rfl⟩
  | error cause => exact ⟨nofun, nofun⟩

theorem map_eq_ok_iff {α : Type} {read : Except SettingsError α} {f : α → Value} :
    read.map f = .ok value ↔ ∃ a, read = .ok a ∧ value = f a := by
  cases read with
  | ok a =>
    constructor
    · rintro ⟨⟩
      exact ⟨a, rfl, rfl⟩
    · rintro ⟨_, ⟨⟩, rfl⟩
      rfl
  | error e => exact ⟨nofun, fun ⟨_, eq, _⟩ => nomatch eq⟩

theorem map_eq_error_iff {α : Type} {read : Except SettingsError α} {f : α → Value} :
    read.map f = .error e ↔ read = .error e := by
  cases read with
  | ok a => exact ⟨nofun, nofun⟩
  | error e' => exact ⟨fun eq => by cases eq; rfl, fun eq => by cases eq; rfl⟩

theorem read_eq_ok_iff : v.read text = .ok value ↔ v.Spells text value := by
  unfold read Spells
  cases v.kind with
  | text => exact ⟨fun eq => by cases eq; rfl, fun eq => by rw [eq]⟩
  | number => simp only [map_eq_ok_iff, number_eq_ok_iff]
  | duration => simp only [map_eq_ok_iff, duration_eq_ok_iff]

/-- A value that cannot be read is not valid. -/
theorem toError_of_read (refused : v.read text = .error e) :
    ∃ message, e.toError = .validation message := by
  unfold read at refused
  split at refused
  · cases refused
  · have faulty := map_eq_error_iff.1 refused
    unfold number at faulty
    split at faulty
    · split at faulty <;> cases faulty
      exact ⟨_, rfl⟩
    · cases faulty
      exact ⟨_, rfl⟩
  · have faulty := map_eq_error_iff.1 refused
    unfold duration at faulty
    cases parsed : Duration.parse text with
    | ok d =>
      rw [parsed] at faulty
      cases faulty
    | error cause =>
      rw [parsed] at faulty
      cases faulty
      exact ⟨_, rfl⟩

/-! ## One variable -/

/-- A variable puts its value into its own setting.  The two validity windows stay equal if they
were, and what no variable can change stays as it was. -/
structure Puts (v : Variable) (value : Value) (s next : Settings) : Prop where
  own : v.setting next = some value
  others : ∀ u ≠ v, u.setting next = u.setting s
  windows : s.queue.taskValidity = s.jobs.taskValidity →
    next.queue.taskValidity = next.jobs.taskValidity
  maxInflight : next.jobs.maxInflight = s.jobs.maxInflight
  headers : next.webhook.headers = s.webhook.headers

theorem puts_of_set (s : Settings) (accepted : v.read text = .ok value) :
    ∃ next, v.set text s = .ok next ∧ v.Puts value s next := by
  have number {n : Nat} (read : v.number text = .ok n) (f : Nat → Settings) :
      (v.number text).map f = .ok (f n) := by rw [read]; rfl
  have duration {d : Duration} (read : duration text = .ok d) (f : Duration → Settings) :
      (Variable.duration text).map f = .ok (f d) := by rw [read]; rfl
  cases v with
  | databaseUrl | logDirectory | webhookUrl =>
    cases accepted
    refine ⟨_, rfl, rfl, fun u ne => ?_, id, rfl, rfl⟩
    cases u <;> first | rfl | exact absurd rfl ne
  | workers | idleWait | webhookTimeout =>
    obtain ⟨n, read, rfl⟩ := map_eq_ok_iff.1 accepted
    refine ⟨_, number read _, rfl, fun u ne => ?_, id, rfl, rfl⟩
    cases u <;> first | rfl | exact absurd rfl ne
  | pollInterval | notificationTimeout =>
    obtain ⟨d, read, rfl⟩ := map_eq_ok_iff.1 accepted
    refine ⟨_, duration read _, rfl, fun u ne => ?_, id, rfl, rfl⟩
    cases u <;> first | rfl | exact absurd rfl ne
  | taskValidity =>
    obtain ⟨d, read, rfl⟩ := map_eq_ok_iff.1 accepted
    refine ⟨_, duration read _, rfl, fun u ne => ?_, fun _ => rfl, rfl, rfl⟩
    cases u <;> first | rfl | exact absurd rfl ne

theorem set_of_refused (s : Settings) (refused : v.read text = .error e) :
    v.set text s = .error e := by
  cases v with
  | databaseUrl | logDirectory | webhookUrl => cases refused
  | workers | idleWait | webhookTimeout =>
    have faulty := map_eq_error_iff.1 refused
    simp only [set, faulty]
    rfl
  | taskValidity | pollInterval | notificationTimeout =>
    have faulty := map_eq_error_iff.1 refused
    simp only [set, faulty]
    rfl

end Variable

/-! ## Several variables -/

variable {lookup : String → Option String} {v : Variable} {e : SettingsError} {s t : Settings}

/-- The variable is unset, or set to nothing but white space. -/
def IsBlank (given : Option String) : Prop := ∀ raw ∈ given, Text.isAllBlank raw = true

/-- The variable holds something that cannot be read, for the given reason. -/
def Spoils (lookup : String → Option String) (v : Variable) (e : SettingsError) : Prop :=
  ∃ raw, lookup v.name = some raw ∧ Text.isAllBlank raw = false ∧
    v.read (Text.trim raw) = .error e

theorem isEmpty_trim (raw : String) : (Text.trim raw).isEmpty = Text.isAllBlank raw := by
  rw [Text.trim, Text.isAllBlank, Bool.eq_iff_iff, String.isEmpty_iff, ← Text.trimChars_eq_nil_iff]
  exact ⟨fun empty => by simpa using congrArg String.toList empty, fun empty => by rw [empty]⟩

theorem givenValue?_of_some {raw : String} (set : lookup v.name = some raw) :
    givenValue? lookup v = if Text.isAllBlank raw then none else some (Text.trim raw) := by
  rw [givenValue?, set, Option.map_some, Option.filter_some, isEmpty_trim]
  cases Text.isAllBlank raw <;> rfl

theorem givenValue?_eq_none_iff : givenValue? lookup v = none ↔ IsBlank (lookup v.name) := by
  cases set : lookup v.name with
  | none => simp [givenValue?, set, IsBlank]
  | some raw => simp [givenValue?_of_some set, IsBlank]

theorem givenValue?_eq_some_iff {text : String} :
    givenValue? lookup v = some text ↔
      ∃ raw, lookup v.name = some raw ∧ Text.isAllBlank raw = false ∧ text = Text.trim raw := by
  cases set : lookup v.name with
  | none => simp [givenValue?, set]
  | some raw =>
    rw [givenValue?_of_some set]
    constructor
    · intro given
      split at given <;> cases given
      next some => exact ⟨raw, rfl, Bool.eq_false_iff.2 some, rfl⟩
    · rintro ⟨_, ⟨⟩, some, rfl⟩
      rw [some]
      rfl

/-- What reading several variables makes of the settings. -/
structure Overrides (lookup : String → Option String) (vars : List Variable) (s next : Settings) :
    Prop where
  kept : ∀ v, v ∉ vars ∨ IsBlank (lookup v.name) → v.setting next = v.setting s
  given : ∀ v ∈ vars, ∀ raw, lookup v.name = some raw → Text.isAllBlank raw = false →
    ∃ value, v.read (Text.trim raw) = .ok value ∧ v.setting next = some value
  windows : s.queue.taskValidity = s.jobs.taskValidity →
    next.queue.taskValidity = next.jobs.taskValidity
  maxInflight : next.jobs.maxInflight = s.jobs.maxInflight
  headers : next.webhook.headers = s.webhook.headers

/-- A variable that is blank changes nothing. -/
theorem Overrides.cons_blank {rest : List Variable} (blank : IsBlank (lookup v.name))
    (later : Overrides lookup rest s t) : Overrides lookup (v :: rest) s t where
  kept u aside := by
    refine later.kept u (aside.imp_left fun outside there => ?_)
    exact outside (List.mem_cons_of_mem v there)
  given u mem raw set some := by
    rcases List.mem_cons.1 mem with rfl | there
    · rw [blank raw set] at some
      cases some
    · exact later.given u there raw set some
  windows := later.windows
  maxInflight := later.maxInflight
  headers := later.headers

/-- A variable that is read before others that do not change its setting again. -/
theorem Overrides.cons_given {rest : List Variable} {mid : Settings} {raw : String} {value : Value}
    (set : lookup v.name = some raw) (some : Text.isAllBlank raw = false)
    (read : v.read (Text.trim raw) = .ok value) (new : v ∉ rest) (puts : v.Puts value s mid)
    (later : Overrides lookup rest mid t) : Overrides lookup (v :: rest) s t where
  kept u aside := by
    have ne : u ≠ v := by
      rintro rfl
      rcases aside with outside | blank
      · exact outside List.mem_cons_self
      · rw [blank raw set] at some
        cases some
    rw [later.kept u (aside.imp_left fun outside there => outside (List.mem_cons_of_mem v there)),
      puts.others u ne]
  given u mem raw' set' some' := by
    rcases List.mem_cons.1 mem with rfl | there
    · rw [set] at set'
      cases set'
      exact ⟨value, read, (later.kept u (.inl new)).trans puts.own⟩
    · exact later.given u there raw' set' some'
  windows := fun agree => later.windows (puts.windows agree)
  maxInflight := later.maxInflight.trans puts.maxInflight
  headers := later.headers.trans puts.headers

/-- The variables are read up to the first that cannot be read. -/
theorem override_cases (lookup : String → Option String) {vars : List Variable}
    (distinct : vars.Nodup) (s : Settings) :
    (∃ t, override lookup vars s = .ok t ∧ Overrides lookup vars s t) ∨
      ∃ before first after e, vars = before ++ first :: after ∧
        (∀ u ∈ before, ∀ e', ¬ Spoils lookup u e') ∧ Spoils lookup first e ∧
        override lookup vars s = .error e := by
  induction vars generalizing s with
  | nil => exact .inl ⟨s, rfl, fun _ _ => rfl, fun _ mem => (nomatch mem), id, rfl, rfl⟩
  | cons v rest ih =>
    obtain ⟨new, distinct⟩ := List.nodup_cons.1 distinct
    -- a variable that can be read, or is blank, is one more that spoils nothing
    have onwards {mid : Settings} (same : override lookup (v :: rest) s = override lookup rest mid)
        (fine : ∀ e, ¬ Spoils lookup v e)
        (extend : ∀ t, Overrides lookup rest mid t → Overrides lookup (v :: rest) s t) :
        (∃ t, override lookup (v :: rest) s = .ok t ∧ Overrides lookup (v :: rest) s t) ∨
          ∃ before first after e, v :: rest = before ++ first :: after ∧
            (∀ u ∈ before, ∀ e', ¬ Spoils lookup u e') ∧ Spoils lookup first e ∧
            override lookup (v :: rest) s = .error e := by
      rw [same]
      rcases ih distinct mid with
        ⟨t, run, reads⟩ | ⟨before, first, after, e, split, early, spoils, run⟩
      · exact .inl ⟨t, run, extend t reads⟩
      · refine .inr ⟨v :: before, first, after, e, by rw [split]; rfl, fun u mem => ?_, spoils, run⟩
        rcases List.mem_cons.1 mem with rfl | there
        · exact fine
        · exact early u there
    cases given : givenValue? lookup v with
    | none =>
      have blank := givenValue?_eq_none_iff.1 given
      refine onwards (by rw [override, given]) ?_ fun t => .cons_blank blank
      rintro e ⟨raw, set, some, -⟩
      rw [blank raw set] at some
      cases some
    | some text =>
      obtain ⟨raw, set, some, rfl⟩ := givenValue?_eq_some_iff.1 given
      cases read : v.read (Text.trim raw) with
      | ok value =>
        obtain ⟨mid, put, puts⟩ := Variable.puts_of_set s read
        have same : override lookup (v :: rest) s = override lookup rest mid := by
          rw [override, given]
          simp only [put]
        refine onwards same ?_ fun t => .cons_given set some read new puts
        rintro e ⟨raw', set', -, refused⟩
        rw [set] at set'
        cases set'
        rw [read] at refused
        cases refused
      | error e =>
        refine .inr ⟨[], v, rest, e, rfl, fun u mem => (nomatch mem), ⟨raw, set, some, read⟩, ?_⟩
        rw [override, given]
        simp only [Variable.set_of_refused s read]

/-! ## All variables -/

/-- The settings are what the environment says: what is unset or blank is at its default,
everything else is what its variable spells without the white space around it, and what no variable
can change is as it always is. -/
structure Reads (lookup : String → Option String) (s : Settings) : Prop where
  unset : ∀ v : Variable, IsBlank (lookup v.name) → v.setting s = v.setting {}
  given : ∀ (v : Variable) (raw : String), lookup v.name = some raw → Text.isAllBlank raw = false →
    ∃ value, v.Spells (Text.trim raw) value ∧ v.setting s = some value
  windows : s.queue.taskValidity = s.jobs.taskValidity
  maxInflight : s.jobs.maxInflight = ({} : Settings).jobs.maxInflight
  headers : s.webhook.headers = ({} : Settings).webhook.headers

theorem Variable.mem_all (v : Variable) : v ∈ Variable.all := by
  cases v <;> decide

theorem Overrides.reads (overrides : Overrides lookup Variable.all {} s) : Reads lookup s where
  unset v blank := overrides.kept v (.inr blank)
  given v raw set some := by
    obtain ⟨value, read, held⟩ := overrides.given v v.mem_all raw set some
    exact ⟨value, Variable.read_eq_ok_iff.1 read, held⟩
  windows := overrides.windows rfl
  maxInflight := overrides.maxInflight
  headers := overrides.headers

theorem eq_of_settings (same : ∀ v : Variable, v.setting s = v.setting t)
    (windows : s.queue.taskValidity = s.jobs.taskValidity)
    (windows' : t.queue.taskValidity = t.jobs.taskValidity)
    (maxInflight : s.jobs.maxInflight = t.jobs.maxInflight)
    (headers : s.webhook.headers = t.webhook.headers) : s = t := by
  obtain ⟨url, dir, ⟨jobValidity, poll, patience, inflight⟩, ⟨workers, idle, validity⟩,
    ⟨hook, secs, headers⟩⟩ := s
  obtain ⟨url', dir', ⟨jobValidity', poll', patience', inflight'⟩, ⟨workers', idle', validity'⟩,
    ⟨hook', secs', headers'⟩⟩ := t
  cases same .databaseUrl
  cases same .workers
  cases same .idleWait
  cases same .taskValidity
  cases same .pollInterval
  cases same .notificationTimeout
  cases same .webhookUrl
  cases same .webhookTimeout
  cases windows
  cases windows'
  cases maxInflight
  cases headers
  have directories : dir = dir' := by
    have texts : dir.map Value.text = dir'.map Value.text := same .logDirectory
    cases dir <;> cases dir' <;> cases texts <;> rfl
  rw [directories]

/-- The settings that an environment says are the only ones. -/
theorem Reads.unique (first : Reads lookup s) (second : Reads lookup t) : s = t := by
  have same (v : Variable) : v.setting s = v.setting t := by
    by_cases blank : IsBlank (lookup v.name)
    · rw [first.unset v blank, second.unset v blank]
    · obtain ⟨raw, set, some⟩ : ∃ raw, lookup v.name = some raw ∧ Text.isAllBlank raw = false := by
        simpa [IsBlank] using blank
      obtain ⟨value, spells, held⟩ := first.given v raw set some
      obtain ⟨value', spells', held'⟩ := second.given v raw set some
      have read := Variable.read_eq_ok_iff.2 spells
      rw [Variable.read_eq_ok_iff.2 spells'] at read
      cases read
      rw [held, held']
  exact eq_of_settings same first.windows second.windows
    (first.maxInflight.trans second.maxInflight.symm) (first.headers.trans second.headers.symm)

/-- An environment that says what the settings are has no variable that cannot be read. -/
theorem Reads.not_spoils (reads : Reads lookup s) (v : Variable) (e : SettingsError) :
    ¬ Spoils lookup v e := by
  rintro ⟨raw, set, some, refused⟩
  obtain ⟨value, spells, -⟩ := reads.given v raw set some
  rw [Variable.read_eq_ok_iff.2 spells] at refused
  cases refused

/-- Settings that fail the check are a fault of the configuration. -/
theorem toError_of_check (refused : s.check = .error e) :
    ∃ message, e.toError = .configuration message := by
  unfold check at refused
  split at refused
  · cases refused
    exact ⟨_, rfl⟩
  · split at refused
    · cases refused
      exact ⟨_, rfl⟩
    · split at refused
      · cases refused
        exact ⟨_, rfl⟩
      · cases checked : s.queue.check with
        | ok _ =>
          rw [checked] at refused
          cases refused
        | error cause =>
          rw [checked] at refused
          cases refused
          exact ⟨_, rfl⟩

theorem ofLookup_of_override_error (refused : override lookup Variable.all {} = .error e) :
    ofLookup lookup = .error e := by
  rw [ofLookup, refused]

theorem ofLookup_of_override (read : override lookup Variable.all {} = .ok s) :
    ofLookup lookup =
      match s.check with
      | .ok () => .ok s
      | .error e => .error e := by
  cases passes : s.check <;> simp only [ofLookup, read, passes]

/-! ## White space -/

/-- What a variable holds, and what it may hold instead: the same between white space, or white
space where it was unset. -/
inductive Padded : Option String → Option String → Prop
  | same (given : Option String) : Padded given given
  | spaced {raw raw' : String} (before after : List Char) (blank : before.all Text.isBlank = true)
    (blank' : after.all Text.isBlank = true) (text : raw'.toList = before ++ raw.toList ++ after) :
    Padded (some raw) (some raw')
  | blank {raw : String} (blank : Text.isAllBlank raw = true) : Padded none (some raw)

theorem Padded.givenValue?_eq {other : String → Option String}
    (padded : Padded (lookup v.name) (other v.name)) :
    givenValue? other v = givenValue? lookup v := by
  unfold givenValue?
  generalize lookup v.name = given at padded
  generalize other v.name = given' at padded
  cases padded with
  | same => rfl
  | spaced before after blank blank' text =>
    have trimmed := Text.trimChars_padded blank blank'
    simp only [Option.map_some, Text.trim, text, trimmed]
  | blank blank => simp [Option.filter, isEmpty_trim, blank]

theorem override_congr {other : String → Option String} {vars : List Variable}
    (same : ∀ v ∈ vars, givenValue? other v = givenValue? lookup v) (s : Settings) :
    override other vars s = override lookup vars s := by
  induction vars generalizing s with
  | nil => rfl
  | cons v rest ih =>
    have later := ih fun u mem => same u (List.mem_cons_of_mem v mem)
    rw [override, override, same v List.mem_cons_self]
    simp only [later]

/-- **No environment is silently misread.**  Either the environment says what the settings are or
some variable cannot be read.  It is accepted just with the settings that it says, if they pass the
check; it is refused as not valid for the first variable that cannot be read, whatever the others
hold, and for its configuration if the settings that it says fail the check.  White space around
values, and in the place of values that are unset, makes no difference. -/
theorem environment_decides (lookup : String → Option String) :
    ((∃ s, Reads lookup s) ∨ ∃ v e, Spoils lookup v e) ∧
    (∀ s, ofLookup lookup = .ok s ↔ s.check = .ok () ∧ Reads lookup s) ∧
    (∀ v e, Spoils lookup v e →
      ∃ before first after cause, Variable.all = before ++ first :: after ∧
        (∀ u ∈ before, ∀ e', ¬ Spoils lookup u e') ∧ Spoils lookup first cause ∧
        ofLookup lookup = .error cause ∧ ∃ message, cause.toError = .validation message) ∧
    (∀ s e, Reads lookup s → s.check = .error e →
      ofLookup lookup = .error e ∧ ∃ message, e.toError = .configuration message) ∧
    (∀ other, (∀ v : Variable, Padded (lookup v.name) (other v.name)) →
      ofLookup other = ofLookup lookup) := by
  have distinct : Variable.all.Nodup := by decide
  have either := override_cases lookup distinct {}
  refine ⟨?_, fun s => ⟨fun accepted => ?_, fun ⟨passes, reads⟩ => ?_⟩, fun v e spoils => ?_,
    fun s e reads fails => ?_, fun other padded => ?_⟩
  · rcases either with ⟨s, -, overrides⟩ | ⟨_, first, _, e, -, -, spoils, -⟩
    · exact .inl ⟨s, overrides.reads⟩
    · exact .inr ⟨first, e, spoils⟩
  · rcases either with ⟨t, read, overrides⟩ | ⟨_, _, _, e, -, -, -, refused⟩
    · rw [ofLookup_of_override read] at accepted
      split at accepted
      next passes =>
        cases accepted
        exact ⟨passes, overrides.reads⟩
      · cases accepted
    · rw [ofLookup_of_override_error refused] at accepted
      cases accepted
  · rcases either with ⟨t, read, overrides⟩ | ⟨_, first, _, e, -, -, spoils, -⟩
    · obtain rfl := overrides.reads.unique reads
      simp only [ofLookup_of_override read, passes]
    · exact absurd spoils (reads.not_spoils first e)
  · rcases either with
      ⟨t, -, overrides⟩ | ⟨before, first, after, e', split, early, spoils', refused⟩
    · exact absurd spoils (overrides.reads.not_spoils v e)
    · have ⟨_, _, _, faulty⟩ := spoils'
      exact ⟨before, first, after, e', split, early, spoils', ofLookup_of_override_error refused,
        Variable.toError_of_read faulty⟩
  · rcases either with ⟨t, read, overrides⟩ | ⟨_, first, _, e', -, -, spoils, -⟩
    · obtain rfl := overrides.reads.unique reads
      exact ⟨by simp only [ofLookup_of_override read, fails], toError_of_check fails⟩
    · exact absurd spoils (reads.not_spoils first e')
  · have given (v : Variable) (_ : v ∈ Variable.all) := (padded v).givenValue?_eq
    rw [ofLookup, ofLookup, override_congr given {}]

/-- Of two variables that cannot be read, the one that is read first is reported. -/
example :
    ofLookup
        (fun name =>
          if name = "QUEUE_NUM_WORKERS" then some " -2 "
          else if name = "NOTIFICATION_TIMEOUT" then some "soon" else none) =
      .error (.badNumber "QUEUE_NUM_WORKERS" "-2") := by
  rfl

end JobNode.Settings
