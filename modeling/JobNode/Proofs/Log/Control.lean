import JobNode.Log.Control
import Mathlib.Data.List.Induction

/-!
# The last good filter counts

Filters are asked for one after the other, by calls and by hangups.  A hangup takes the directive of
the environment file before that of the environment, and the default where it gets nothing.
Whatever was asked for, the log has the filter of the last directive that could be read.

* `Log.asks_iff`, `Log.tries_iff`: what a hangup asks for, and what it then tries.
* `Log.Control.Tried`: the directives that were tried, in order.
* `Log.Control.Prevails`: the filter that counts after directives.
* `Log.Control.last_good_filter`: every sequence of calls and hangups.
-/

namespace JobNode

namespace Environment

theorem first?_of_none {name : String} {entries : List Entry}
    (none : ∀ value, .assignment name value ∉ entries) : first? name entries = .none := by
  induction entries with
  | nil => rfl
  | cons entry rest ih =>
    have later := ih fun value mem => none value (List.mem_cons_of_mem _ mem)
    cases entry with
    | nothing | fault => exact later
    | assignment other value =>
      have other_ : other ≠ name := by
        rintro rfl
        exact none value List.mem_cons_self
      rw [first?, if_neg other_, later]

theorem first?_append {name value : String} {before after : List Entry}
    (none : ∀ value, .assignment name value ∉ before) :
    first? name (before ++ .assignment name value :: after) = some value := by
  induction before with
  | nil => rw [List.nil_append, first?, if_pos rfl]
  | cons entry rest ih =>
    have later := ih fun value mem => none value (List.mem_cons_of_mem _ mem)
    cases entry with
    | nothing | fault => exact later
    | assignment other value =>
      have other_ : other ≠ name := by
        rintro rfl
        exact none value List.mem_cons_self
      rw [List.cons_append, first?, if_neg other_, later]

/-- A file gives a variable no value, or there is a first one. -/
theorem first_cases (name : String) (entries : List Entry) :
    (∀ value, .assignment name value ∉ entries) ∨
      ∃ before value after, entries = before ++ .assignment name value :: after ∧
        ∀ value, .assignment name value ∉ before := by
  induction entries with
  | nil => exact .inl fun _ => List.not_mem_nil
  | cons entry rest ih =>
    by_cases own : ∃ value, entry = .assignment name value
    · obtain ⟨value, rfl⟩ := own
      exact .inr ⟨[], value, rest, rfl, fun _ => List.not_mem_nil⟩
    · have skipped {entries : List Entry} (none : ∀ value, .assignment name value ∉ entries) :
          ∀ value, .assignment name value ∉ entry :: entries := by
        intro value mem
        rcases List.mem_cons.1 mem with here | later
        · exact own ⟨value, here.symm⟩
        · exact none value later
      rcases ih with none | ⟨before, value, after, split, none⟩
      · exact .inl (skipped none)
      · exact .inr ⟨entry :: before, value, after, by rw [split]; rfl, skipped none⟩

end Environment

namespace Log

open Environment

variable {file : Option (List Entry)} {fromEnvironment asked : Option String} {directive : String}

/-! ## Hangups -/

/-- What a hangup asks for, given the lines of the environment file, if there is one, and the
environment: the first directive in the file, or else that of the environment. -/
inductive Asks (file : Option (List Entry)) (fromEnvironment : Option String) :
    Option String → Prop
  | byFile {before after : List Entry} {directive : String}
    (lines : file = some (before ++ .assignment variableName directive :: after))
    (first : ∀ other, .assignment variableName other ∉ before) :
    Asks file fromEnvironment (some directive)
  | byEnvironment
    (silent : ∀ lines, file = some lines → ∀ other, .assignment variableName other ∉ lines) :
    Asks file fromEnvironment fromEnvironment

theorem asks_iff :
    Asks file fromEnvironment asked ↔ asked = (fileDirective? file).or fromEnvironment := by
  have unique {asked : Option String} (asks : Asks file fromEnvironment asked) :
      asked = (fileDirective? file).or fromEnvironment := by
    cases asks with
    | byFile lines first =>
      rw [lines, fileDirective?, Option.bind_some, first?_append first]
      rfl
    | byEnvironment silent =>
      cases lines : file with
      | none => rfl
      | some entries =>
        rw [fileDirective?, Option.bind_some, first?_of_none (silent entries lines)]
        rfl
  refine ⟨unique, ?_⟩
  rintro rfl
  -- one of the two rules applies, and it asks for nothing else
  have some : ∃ asked, Asks file fromEnvironment asked := by
    cases lines : file with
    | none => exact ⟨_, .byEnvironment nofun⟩
    | some entries =>
      rcases first_cases variableName entries with silent | ⟨before, directive, after, split, first⟩
      · refine ⟨_, .byEnvironment ?_⟩
        rintro _ ⟨⟩
        exact silent
      · exact ⟨_, .byFile (congrArg Option.some split) first⟩
  obtain ⟨asked, asks⟩ := some
  exact unique asks ▸ asks

/-- What a hangup tries: the directive that it asks for, or the default where that is blank or
nothing is asked for. -/
inductive Tries (file : Option (List Entry)) (fromEnvironment : Option String) : String → Prop
  | asked {directive : String} (asks : Asks file fromEnvironment (some directive))
    (spoken : ∃ c ∈ directive.toList, Text.isBlank c = false) :
    Tries file fromEnvironment directive
  | blank {directive : String} (asks : Asks file fromEnvironment (some directive))
    (blank : ∀ c ∈ directive.toList, Text.isBlank c = true) :
    Tries file fromEnvironment defaultDirective
  | nothing (asks : Asks file fromEnvironment none) : Tries file fromEnvironment defaultDirective

theorem tries_iff :
    Tries file fromEnvironment directive ↔
      directive = configuredDirective (fileDirective? file) fromEnvironment := by
  have unique {directive : String} (tries : Tries file fromEnvironment directive) :
      directive = configuredDirective (fileDirective? file) fromEnvironment := by
    cases tries with
    | asked asks spoken =>
      obtain ⟨c, mem, letter⟩ := spoken
      have notBlank : ¬ Text.isAllBlank directive = true := fun blank => by
        cases letter.symm.trans (List.all_eq_true.1 blank c mem)
      rw [configuredDirective, ← asks_iff.1 asks]
      exact (if_neg notBlank).symm
    | blank asks blank =>
      rw [configuredDirective, ← asks_iff.1 asks]
      exact (if_pos (List.all_eq_true.2 blank)).symm
    | nothing asks => rw [configuredDirective, ← asks_iff.1 asks]
  refine ⟨unique, ?_⟩
  rintro rfl
  have some : ∃ directive, Tries file fromEnvironment directive := by
    cases asks : (fileDirective? file).or fromEnvironment with
    | none => exact ⟨_, .nothing (asks_iff.2 asks.symm)⟩
    | some directive =>
      by_cases blank : ∀ c ∈ directive.toList, Text.isBlank c = true
      · exact ⟨_, .blank (asks_iff.2 asks.symm) blank⟩
      · simp only [not_forall, Bool.not_eq_true] at blank
        obtain ⟨c, mem, letter⟩ := blank
        exact ⟨_, .asked (asks_iff.2 asks.symm) ⟨c, mem, letter⟩⟩
  obtain ⟨directive, tries⟩ := some
  exact unique tries ▸ tries

namespace Control

variable {c : Control} {events : List Event} {directives : List String}

/-! ## Sequences of calls and hangups -/

/-- The log after a sequence of calls and hangups. -/
def after (c : Control) (events : List Event) : Control := events.foldl apply c

theorem after_concat (c : Control) (events : List Event) (e : Event) :
    c.after (events ++ [e]) = (c.after events).apply e := by
  rw [after, after, List.foldl_append]
  rfl

/-- The directives that are tried, in order.  Hangups that nobody watches try nothing. -/
inductive Tried : List Event → List String → Prop
  | start : Tried [] []
  | set {events : List Event} {directives : List String} (directive : String)
    (before : Tried events directives) :
    Tried (events ++ [.set directive]) (directives ++ [directive])
  | hangup {events : List Event} {directives : List String} {file : Option (List Entry)}
    {fromEnvironment : Option String} {directive : String} (before : Tried events directives)
    (watched : .release ∉ events) (tries : Tries file fromEnvironment directive) :
    Tried (events ++ [.hangup file fromEnvironment]) (directives ++ [directive])
  | unwatched {events : List Event} {directives : List String} (file : Option (List Entry))
    (fromEnvironment : Option String) (before : Tried events directives)
    (released : .release ∈ events) :
    Tried (events ++ [.hangup file fromEnvironment]) directives
  | release {events : List Event} {directives : List String} (before : Tried events directives) :
    Tried (events ++ [.release]) directives

theorem exists_tried (events : List Event) : ∃ directives, Tried events directives := by
  induction events using List.reverseRecOn with
  | nil => exact ⟨[], .start⟩
  | append_singleton events e ih =>
    obtain ⟨directives, before⟩ := ih
    cases e with
    | set directive => exact ⟨_, .set directive before⟩
    | release => exact ⟨_, .release before⟩
    | hangup file fromEnvironment =>
      by_cases released : .release ∈ events
      · exact ⟨_, .unwatched file fromEnvironment before released⟩
      · exact ⟨_, .hangup before released (tries_iff.2 rfl)⟩

/-- The filter that counts after directives: that of the last one that can be read, or else the one
before them. -/
inductive Prevails (start : Filter) (directives : List String) : Filter → Prop
  | last {earlier later : List String} {directive : String} {filter : Filter}
    (split : directives = earlier ++ directive :: later)
    (good : Filter.parse directive = .ok filter)
    (bad : ∀ other ∈ later, ∃ e, Filter.parse other = .error e) : Prevails start directives filter
  | none (bad : ∀ other ∈ directives, ∃ e, Filter.parse other = .error e) :
    Prevails start directives start

theorem Prevails.bad {start filter : Filter} {directive : String} {e : FilterError}
    (before : Prevails start directives filter) (bad : Filter.parse directive = .error e) :
    Prevails start (directives ++ [directive]) filter := by
  have still {others : List String} (old : ∀ other ∈ others, ∃ e, Filter.parse other = .error e) :
      ∀ other ∈ others ++ [directive], ∃ e, Filter.parse other = .error e := by
    intro other mem
    rcases List.mem_append.1 mem with early | late
    · exact old other early
    · rw [List.mem_singleton.1 late]
      exact ⟨e, bad⟩
  cases before with
  | @last earlier later last _ split good old =>
    have split' : directives ++ [directive] = earlier ++ last :: (later ++ [directive]) := by
      rw [split, List.append_assoc, List.cons_append]
    exact .last split' good (still old)
  | none old => exact .none (still old)

/-! ## Steps -/

theorem released_apply (c : Control) (e : Event) :
    (c.apply e).released = (c.released || e matches .release) := by
  cases e with
  | set directive =>
    simp only [apply, set]
    cases Filter.parse directive <;> simp
  | hangup file fromEnvironment =>
    simp only [apply, hangup, set]
    cases Filter.parse (configuredDirective (fileDirective? file) fromEnvironment) <;>
      cases released : c.released <;> simp [released]
  | release => simp [apply, release]

/-- Hangups are watched up to the release. -/
theorem released_after (start : Filter) (events : List Event) :
    (Control.after ⟨start, false⟩ events).released = true ↔ .release ∈ events := by
  induction events using List.reverseRecOn with
  | nil => simp [after]
  | append_singleton events e ih =>
    rw [after_concat, released_apply, Bool.or_eq_true, ih, List.mem_append, List.mem_singleton]
    refine or_congr_right ?_
    cases e <;> simp

theorem apply_set_good {filter : Filter} (good : Filter.parse directive = .ok filter) :
    c.apply (.set directive) = { c with filter } := by
  simp only [apply, set, good]

theorem apply_set_bad {e : FilterError} (bad : Filter.parse directive = .error e) :
    c.apply (.set directive) = c := by
  simp only [apply, set, bad]

/-- A hangup that is watched is a call with the directive that it tries. -/
theorem apply_hangup (watched : c.released = false)
    (tries : Tries file fromEnvironment directive) :
    c.apply (.hangup file fromEnvironment) = c.apply (.set directive) := by
  rw [tries_iff.1 tries]
  simp only [apply, hangup, watched, Bool.false_eq_true, if_false]

theorem apply_hangup_of_released (released : c.released = true) :
    c.apply (.hangup file fromEnvironment) = c := by
  simp only [apply, hangup, released, if_true]

/-- One more directive is tried. -/
theorem Prevails.set {start : Filter} (before : Prevails start directives c.filter)
    (directive : String) :
    Prevails start (directives ++ [directive]) (c.apply (.set directive)).filter := by
  cases read : Filter.parse directive with
  | ok filter =>
    rw [apply_set_good read]
    exact .last rfl read (List.forall_mem_nil _)
  | error e =>
    rw [apply_set_bad read]
    exact before.bad read

theorem Tried.prevails {start : Filter} (tried : Tried events directives) :
    Prevails start directives (Control.after ⟨start, false⟩ events).filter := by
  induction tried with
  | start => exact .none (List.forall_mem_nil _)
  | set directive before ih =>
    rw [after_concat]
    exact ih.set directive
  | @hangup events directives file fromEnvironment directive before watched tries ih =>
    have goesOn : (Control.after ⟨start, false⟩ events).released = false := by
      rw [← Bool.not_eq_true, released_after]
      exact watched
    rw [after_concat, apply_hangup goesOn tries]
    exact ih.set directive
  | unwatched file fromEnvironment before released ih =>
    rw [after_concat, apply_hangup_of_released ((released_after _ _).2 released)]
    exact ih
  | release before ih =>
    rw [after_concat]
    exact ih

/-- After any sequence of calls and hangups, the filter is that of the last directive tried that can
be read, or the first filter where none can.  A directive that cannot be read is refused and changes
nothing, a hangup does what a call with the one directive that it tries would do, and nothing at all
once hangups are no longer watched. -/
theorem last_good_filter (start : Filter) (events : List Event) :
    (∃ directives, Tried events directives) ∧
    (∀ directives, Tried events directives →
      Prevails start directives (Control.after ⟨start, false⟩ events).filter) ∧
    (∀ directive filter, Filter.parse directive = .ok filter →
      (Control.after ⟨start, false⟩ events).set directive =
        .ok { Control.after ⟨start, false⟩ events with filter } ∧
      (Control.after ⟨start, false⟩ (events ++ [.set directive])).filter = filter) ∧
    (∀ directive e, Filter.parse directive = .error e →
      (Control.after ⟨start, false⟩ events).set directive =
        .error (.configuration ("Invalid filter directive: " ++ e.message)) ∧
      Control.after ⟨start, false⟩ (events ++ [.set directive]) =
        Control.after ⟨start, false⟩ events) ∧
    (.release ∉ events → ∀ file fromEnvironment, ∃ directive,
      (∀ other, Tries file fromEnvironment other ↔ other = directive) ∧
      Control.after ⟨start, false⟩ (events ++ [.hangup file fromEnvironment]) =
        Control.after ⟨start, false⟩ (events ++ [.set directive])) ∧
    (.release ∈ events → ∀ file fromEnvironment,
      Control.after ⟨start, false⟩ (events ++ [.hangup file fromEnvironment]) =
        Control.after ⟨start, false⟩ events) := by
  simp only [after_concat]
  refine ⟨exists_tried events, fun _ tried => tried.prevails, fun directive filter good => ?_,
    fun directive e bad => ?_, fun watched file fromEnvironment => ?_,
    fun released file fromEnvironment => ?_⟩
  · refine ⟨?_, ?_⟩
    · simp only [set, good]
    · rw [apply_set_good good]
  · refine ⟨?_, apply_set_bad bad⟩
    simp only [set, bad]
    rfl
  · have goesOn : (Control.after ⟨start, false⟩ events).released = false := by
      rw [← Bool.not_eq_true, released_after]
      exact watched
    exact ⟨_, fun _ => tries_iff, apply_hangup goesOn (tries_iff.2 rfl)⟩
  · exact apply_hangup_of_released ((released_after _ _).2 released)

example :
    let events := [.hangup none (some " "), .set "anchord=loud", .release, .hangup none none]
    (Control.after ⟨⟨[]⟩, false⟩ events).filter.toText =
      "task_queue=info,anchord=info,sqlx=warn" := by
  decide +kernel

end Control

end Log

end JobNode
