import JobNode.Proofs.Manager.Exchanges
import JobNode.Proofs.Manager.Identifiers
import Mathlib.Data.List.Induction
import Mathlib.Data.List.Nodup

/-!
# The versions of a record

Every save files another version of a record under its key.  What is read is the last version at that
time, and what is saved is a new job, or what becomes of a version that was read before; meanwhile
there may have been other versions.

* `Traffic.versions`: the versions that a key has had.
* `Traffic.reads_of_run`: what is read is the last version.
* `Traffic.saved_cases`: what is saved is the first version of a key, or stands on an earlier one.
* `Traffic.always_versions`: what every save keeps holds along the versions.
-/

namespace JobNode.Procedure

variable {α : Type} {m m' : Memory} {p p' : Procedure α} {passed : List Exchange}

/-- A step that reads a job reads what is there, and nothing else passes with it. -/
theorem Step.found_cases (step : Step m p passed p' m') {job : Job} (mem : .found job ∈ passed) :
    passed = [.found job] ∧ m.get? job.key = some job := by
  cases step with
  | found at_ =>
    cases List.mem_singleton.1 mem
    rw [Memory.key_of_get? at_]
    exact ⟨rfl, at_⟩
  | saved => cases List.mem_singleton.1 mem
  | unread cause | unsaved cause | time t | identifier id => cases mem

end JobNode.Procedure

namespace JobNode.Manager.Traffic

open Procedure (Exchange saves)

variable {h k past later marks : List Mark} {mark : Mark} {p : Party} {x : Exchange} {i : Nat}
variable {m : Memory} {key : JobKey} {job old : Job}

/-! ## Parties and their marks -/

@[simp]
theorem exchange?_mark : (p.mark x).exchange? = some x := by cases p <;> rfl

theorem eq_mark_of_exchange? (noted : mark.exchange? = some x) : ∃ p, mark = Party.mark p x := by
  cases mark with
  | execution i mark =>
    refine ⟨.execution i, ?_⟩
    cases mark <;> first | cases noted; rfl | cases noted
  | operation j y =>
    cases noted
    exact ⟨.operation j, rfl⟩

theorem eq_mark_of_by? (noted : Mark.by? p mark = some x) : mark = p.mark x := by
  cases mark with
  | execution i mark =>
    rw [Mark.by?] at noted
    split at noted
    next own =>
      subst own
      cases mark <;> first | cases noted; rfl | cases noted
    · cases noted
  | operation j y =>
    rw [Mark.by?] at noted
    split at noted
    next own =>
      subst own
      cases noted
      rfl
    · cases noted

theorem by?_mark : Mark.by? p (p.mark x) = some x := by cases p <;> exact if_pos rfl

theorem allExchanges_cons : allExchanges (p.mark x :: h) = x :: allExchanges h :=
  List.filterMap_cons_some exchange?_mark

theorem allExchanges_split (split : h = past ++ p.mark x :: later) :
    allExchanges h = allExchanges past ++ x :: allExchanges later := by
  rw [split, allExchanges_append, allExchanges_cons]

/-- The last exchange of a party, and the marks since. -/
theorem exists_last (last : (passedBy p h).getLast? = some x) :
    ∃ earlier between, h = earlier ++ p.mark x :: between ∧ passedBy p between = [] := by
  induction h using List.reverseRecOn with
  | nil => cases last
  | append_singleton h mark ih =>
    rw [passedBy_append] at last
    cases noted : Mark.by? p mark with
    | none =>
      have silent : passedBy p [mark] = [] := List.filterMap_cons_none noted
      rw [silent, List.append_nil] at last
      obtain ⟨earlier, between, rfl, quiet⟩ := ih last
      refine ⟨earlier, between ++ [mark], by simp, ?_⟩
      rw [passedBy_append, quiet, silent]
      rfl
    | some y =>
      have spoken : passedBy p [mark] = [y] := List.filterMap_cons_some noted
      rw [spoken, List.getLast?_concat, Option.some.injEq] at last
      subst last
      exact ⟨h, [], by rw [eq_mark_of_by? noted], rfl⟩

/-! ## Versions -/

/-- The records that a key has had: the first one, and all that were saved since. -/
def versions (m : Memory) (key : JobKey) (h : List Mark) : List Job :=
  (m.get? key).toList ++ (saves (allExchanges h)).filter (·.key = key)

theorem versions_append : versions m key (h ++ k) =
    versions m key h ++ (saves (allExchanges k)).filter (·.key = key) := by
  simp [versions]

theorem versions_prefix : versions m key h <+: versions m key (h ++ k) := ⟨_, versions_append.symm⟩

theorem versions_of_saved (noted : mark.exchange? = some (.saved job)) (own : job.key = key) :
    versions m key (h ++ [mark]) = versions m key h ++ [job] := by
  rw [versions_append]
  simp [allExchanges, noted, saves, Exchange.saved?, own]

theorem versions_of_other (other : ∀ job, mark.exchange? = some (.saved job) → job.key ≠ key) :
    versions m key (h ++ [mark]) = versions m key h := by
  rw [versions_append]
  cases noted : mark.exchange? with
  | none => simp [allExchanges, noted, saves]
  | some x =>
    cases x with
    | found job => simp [allExchanges, noted, saves, Exchange.saved?]
    | saved job => simp [allExchanges, noted, saves, Exchange.saved?, other job noted]

theorem key_of_mem_versions (mem : job ∈ versions m key h) : job.key = key := by
  rcases List.mem_append.1 mem with first | saved
  · exact Memory.key_of_get? (Option.mem_toList.1 first)
  · exact of_decide_eq_true (List.mem_filter.1 saved).2

/-- What is there is the last version. -/
theorem Stored.get?_eq {s : Traffic} (stored : Stored m s h) (key : JobKey) :
    s.memory.get? key = (versions m key h).getLast? := by
  rw [stored.memory, Procedure.keep, Memory.get?_foldl_save]
  rfl

/-- What every save keeps, in the light of the versions before, holds along the versions. -/
theorem always_versions {fits : List Job → Job → Prop}
    (first : ∀ job, m.get? key = some job → fits [] job)
    (saved : ∀ past p job later, h = past ++ Party.mark p (.saved job) :: later → job.key = key →
      fits (versions m key past) job) : Run.Always fits (versions m key h) := by
  induction h using List.reverseRecOn with
  | nil =>
    unfold versions
    cases at_ : m.get? key with
    | none => exact Run.always_nil
    | some job => exact Run.always_nil.concat (first job at_)
  | append_singleton h mark ih =>
    have before := ih fun past p job later split own => by
      refine saved past p job (later ++ [mark]) ?_ own
      rw [split, List.append_assoc]
      rfl
    by_cases now : ∃ job, mark.exchange? = some (.saved job) ∧ job.key = key
    · obtain ⟨job, noted, own⟩ := now
      rw [versions_of_saved noted own]
      obtain ⟨p, rfl⟩ := eq_mark_of_exchange? noted
      exact before.concat (saved h p job [] rfl own)
    · rw [versions_of_other fun job noted own => now ⟨job, noted, own⟩]
      exact before

/-- The first version of a key that had no record was saved by somebody. -/
theorem exists_first (unused : m.get? key = none) (some : versions m key h ≠ []) :
    ∃ past p job later, h = past ++ Party.mark p (.saved job) :: later ∧ job.key = key ∧
      versions m key past = [] := by
  induction h using List.reverseRecOn with
  | nil => simp [versions, unused, saves, allExchanges] at some
  | append_singleton h mark ih =>
    by_cases before : versions m key h = []
    · by_cases now : ∃ job, mark.exchange? = .some (.saved job) ∧ job.key = key
      · obtain ⟨job, noted, own⟩ := now
        obtain ⟨p, rfl⟩ := eq_mark_of_exchange? noted
        exact ⟨h, p, job, [], rfl, own, before⟩
      · rw [versions_of_other fun job noted own => now ⟨job, noted, own⟩] at some
        exact absurd before some
    · obtain ⟨past, p, job, later, rfl, own, first⟩ := ih before
      exact ⟨past, p, job, later ++ [mark], by simp, own, first⟩

/-! ## Reading -/

/-- What is read is the last version. -/
def Reads (m : Memory) (past : List Mark) (mark : Mark) : Prop :=
  ∀ job, mark.exchange? = some (.found job) → (versions m job.key past).getLast? = some job

theorem reads_of_run {n : Nat} {events : List Event} {s : Traffic}
    (run : (create m n).run? events = some s) :
    Run.Always (Reads m) ((create m n).history events) := by
  let kept (s : Traffic) (h : List Mark) : Prop := Stored m s h ∧ Run.Always (Reads m) h
  have both : kept s ((create m n).history events) := by
    refine Run.history_induction (fun before happens => ?_)
      ⟨⟨rfl, rfl, fun _ mem => (nomatch mem)⟩, Run.always_nil⟩ run
    obtain ⟨stored, reads⟩ := before
    have step := step_of_apply happens
    refine ⟨stored.step step, reads.append fun past mark later split job noted => ?_⟩
    obtain ⟨p, rfl⟩ := eq_mark_of_exchange? noted
    have passed := allExchanges_split split
    rcases step.exchange with ⟨nothing, -⟩ | ⟨α, q, q', moves⟩
    · simp [nothing] at passed
    · have mem : .found job ∈ allExchanges past ++ .found job :: allExchanges later := by simp
      rw [← passed] at mem
      obtain ⟨alone, at_⟩ := moves.found_cases mem
      -- nothing passed before it in the same step, so the memory is that of the whole history
      rw [alone] at passed
      have quiet : allExchanges past = [] := by
        cases earlier : allExchanges past with
        | nil => rfl
        | cons y rest => simp [earlier] at passed
      rw [versions_append, quiet, ← at_, stored.get?_eq]
      simp [saves]
  exact both.2

/-- What was read last is among the versions. -/
theorem mem_versions_of_read (reads : Run.Always (Reads m) h) (split : h = past ++ later)
    (read : (passedBy p past).getLast? = some (.found old)) : old ∈ versions m old.key past := by
  obtain ⟨earlier, between, rfl, -⟩ := exists_last read
  have last : (versions m old.key earlier).getLast? = some old := by
    refine reads earlier (p.mark (.found old)) (between ++ later) ?_ old exchange?_mark
    rw [split, List.append_assoc]
    rfl
  exact versions_prefix.subset (List.mem_of_getLast? last)

/-! ## Saving -/

/-- A party saves what becomes of a record: an execution finalizes it as was chosen, an operation
changes it. -/
inductive Revises (past : List Mark) (old : Job) : Party → Job → Prop
  | finalize {i : Nat} {a : Assignment} {branch : Branch} (t : Instant) :
    .execution i (.chose a branch) ∈ past → old.key = a.key →
    Revises past old (.execution i) (branch.settled a t old)
  | operate {j : Nat} {next : Job} : Updated old next → Revises past old (.operation j) next

theorem Revises.same_key (revises : Revises past old p job) : job.key = old.key := by
  cases revises with
  | finalize t chose own => rfl
  | operate updated => cases updated <;> rfl

/-- A party saves a job that it opens, or what becomes of the record that it has read. -/
theorem InRule.saved_cases {s : Traffic} (inRule : InRule s h)
    (split : h = past ++ p.mark (.saved job) :: later) :
    (∃ i, p = .execution i ∧ (∀ mark ∈ of i past, mark.isEarly) ∧ passedBy p past = [] ∧
      ∃ account description t, job = Job.create job.id account description t) ∨
    ∃ old, (passedBy p past).getLast? = some (.found old) ∧ Revises past old p job := by
  cases p with
  | execution i =>
    obtain ⟨r, ⟨early, none, t, fresh⟩ | ⟨a, branch, chose, settles⟩⟩ := inRule.ruled split
    · refine .inl ⟨i, rfl, early, ?_, r.account, r.description, t, fresh⟩
      rw [passedBy_execution]
      exact none
    · obtain ⟨old, t, read, own, rfl⟩ := settles
      refine .inr ⟨old, ?_, .finalize t (mem_of.1 chose) own⟩
      rw [passedBy_execution]
      exact read
  | operation j =>
    obtain ⟨old, read, updated⟩ := inRule.revises_of split
    exact .inr ⟨old, read, .operate updated⟩

/-- A new job has no record before it. -/
theorem versions_of_creation {n : Nat} {events : List Event} {s : Traffic}
    (run : (create m n).run? events = some s) (ids : NewIds m events)
    (split : (create m n).history events = past ++ .execution i (.exchanged (.saved job)) :: later)
    (early : ∀ mark ∈ of i past, mark.isEarly) (opens : passedBy (.execution i) past = []) :
    versions m job.key past = [] := by
  have drawing := drawing_of_run run
  have drawn := drawing.drawn_of_creation split early
  have unused : m.get? job.key = none := ids.unused _ drawn job.account
  by_contra some
  obtain ⟨before, q, first, between, rfl, own, none⟩ := exists_first unused some
  have earlier : (create m n).history events = before ++ q.mark (.saved first) ::
      (between ++ .execution i (.exchanged (.saved job)) :: later) := by
    rw [split, List.append_assoc]
    rfl
  rcases (inRule_of_run run).saved_cases earlier with ⟨j, rfl, young, -, -⟩ | ⟨old, read, revises⟩
  · -- the same identifier was drawn once, so it is the same execution, which saves one new job
    have drawn' := drawing.drawn_of_creation earlier young
    have id : first.id = job.id := congrArg JobKey.id own
    have same := List.inj_on_of_nodup_map ids.once drawn' drawn id
    have who : j = i := congrArg Prod.fst same
    subst who
    rw [passedBy_append, passedBy, passedBy, List.filterMap_cons_some by?_mark] at opens
    simp at opens
  · have mem := mem_versions_of_read (reads_of_run run) earlier read
    rw [← revises.same_key, own, none] at mem
    cases mem

/-- What is saved is a new job, and the first version of its key, or what becomes of the record that
the same party has read, which was a version of the key. -/
theorem saved_cases {n : Nat} {events : List Event} {s : Traffic}
    (run : (create m n).run? events = some s) (ids : NewIds m events)
    (split : (create m n).history events = past ++ p.mark (.saved job) :: later) :
    (versions m job.key past = [] ∧
      ∃ account description t, job = Job.create job.id account description t) ∨
    ∃ old ∈ versions m job.key past, (passedBy p past).getLast? = some (.found old) ∧
      Revises past old p job := by
  rcases (inRule_of_run run).saved_cases split with ⟨i, rfl, early, opens, fresh⟩ |
    ⟨old, read, revises⟩
  · exact .inl ⟨versions_of_creation run ids split early opens, fresh⟩
  · have mem := mem_versions_of_read (reads_of_run run) split read
    rw [← revises.same_key] at mem
    exact .inr ⟨old, mem, read, revises⟩

end JobNode.Manager.Traffic
