import Mathlib.Data.List.Chain
import Mathlib.Data.List.Induction

/-!
# Runs of machines

A machine is a function that carries out one step, or says that the step cannot happen.  A run is
any list of steps, each of which can happen where it comes.  Its history is what an observer notes
who sees the state before each step and the step itself.

* `Run.exists_step`: a run can be cut at each of its steps.
* `Run.steps_induction`, `Run.last_induction`, `Run.history_induction`, `Run.events_induction`: what
  holds at the start, and is kept by every step, holds at the end of every run, together with the
  history or the steps up to there.
* `Run.Reaches`: some run leads from one state to another.
* `Run.Always`: everything that is noted fits what was noted before.
-/

namespace JobNode.Run

variable {σ ε δ : Type}

/-- The state after steps; none if one of them cannot happen. -/
def last? (apply : σ → ε → Option σ) : σ → List ε → Option σ
  | s, [] => some s
  | s, e :: rest =>
    match apply s e with
    | some next => last? apply next rest
    | none => none

/-- What is noted of the steps, up to the first that cannot happen. -/
def history (apply : σ → ε → Option σ) (note : σ → ε → List δ) : σ → List ε → List δ
  | _, [] => []
  | s, e :: rest =>
    match apply s e with
    | some next => note s e ++ history apply note next rest
    | none => []

variable {apply : σ → ε → Option σ} {note : σ → ε → List δ}

theorem last?_append {s mid : σ} {events : List ε} (run : last? apply s events = some mid)
    (later : List ε) : last? apply s (events ++ later) = last? apply mid later := by
  induction events generalizing s with
  | nil =>
    cases run
    rfl
  | cons e rest ih =>
    rw [last?] at run
    rw [List.cons_append, last?]
    cases happens : apply s e with
    | none => simp [happens] at run
    | some next =>
      rw [happens] at run
      exact ih run

/-- A step of a run happens in the state that the steps before it lead to. -/
theorem exists_step {s last : σ} {before later : List ε} {e : ε}
    (run : last? apply s (before ++ e :: later) = some last) :
    ∃ mid next, last? apply s before = some mid ∧ apply mid e = some next ∧
      last? apply next later = some last := by
  induction before generalizing s with
  | nil =>
    rw [List.nil_append, last?] at run
    cases happens : apply s e with
    | none => simp [happens] at run
    | some next =>
      rw [happens] at run
      exact ⟨s, next, rfl, happens, run⟩
  | cons first rest ih =>
    rw [List.cons_append, last?] at run
    cases happens : apply s first with
    | none => simp [happens] at run
    | some next =>
      rw [happens] at run
      rw [last?, happens]
      exact ih run

theorem history_append {s mid : σ} {events : List ε} (run : last? apply s events = some mid)
    (later : List ε) :
    history apply note s (events ++ later) =
      history apply note s events ++ history apply note mid later := by
  induction events generalizing s with
  | nil =>
    cases run
    rfl
  | cons e rest ih =>
    rw [last?] at run
    rw [List.cons_append, history, history]
    cases happens : apply s e with
    | none => simp [happens] at run
    | some next =>
      rw [happens] at run
      simp only [ih run, List.append_assoc]

/-- A relation between states, the steps so far and histories that every step keeps is kept by every
run. -/
theorem steps_induction {kept : σ → List ε → List δ → Prop}
    (step : ∀ {s next : σ} {e : ε} {steps : List ε} {past : List δ}, kept s steps past →
      apply s e = some next → kept next (steps ++ [e]) (past ++ note s e))
    {events : List ε} {s last : σ} {steps : List ε} {past : List δ} (start : kept s steps past)
    (run : last? apply s events = some last) :
    kept last (steps ++ events) (past ++ history apply note s events) := by
  induction events generalizing s steps past with
  | nil =>
    cases run
    simpa [history] using start
  | cons e rest ih =>
    -- what is noted of the rest goes on from what was noted up to `e`
    rw [last?] at run
    rw [history]
    cases happens : apply s e with
    | none => simp [happens] at run
    | some next =>
      rw [happens] at run
      have later := ih (step start happens) run
      simpa [List.append_assoc] using later

/-- A relation between states and histories that every step keeps is kept by every run. -/
theorem last_induction {kept : σ → List δ → Prop}
    (step : ∀ {s next : σ} {e : ε} {past : List δ}, kept s past → apply s e = some next →
      kept next (past ++ note s e))
    {events : List ε} {s last : σ} {past : List δ} (start : kept s past)
    (run : last? apply s events = some last) : kept last (past ++ history apply note s events) :=
  @steps_induction σ ε δ apply note (fun s _ past => kept s past) step events s last [] past start
    run

/-- The same for a run from a first state, of which nothing was noted. -/
theorem history_induction {kept : σ → List δ → Prop}
    (step : ∀ {s next : σ} {e : ε} {past : List δ}, kept s past → apply s e = some next →
      kept next (past ++ note s e))
    {events : List ε} {s last : σ} (start : kept s [])
    (run : last? apply s events = some last) : kept last (history apply note s events) :=
  last_induction step start run

/-- A relation between states and the steps so far, where nothing is noted. -/
theorem events_induction (kept : σ → List ε → Prop)
    (step : ∀ {s next : σ} {e : ε} {steps : List ε}, kept s steps → apply s e = some next →
      kept next (steps ++ [e]))
    {events : List ε} {s last : σ} (start : kept s []) (run : last? apply s events = some last) :
    kept last events :=
  @steps_induction σ ε Unit apply (fun _ _ => []) (fun s steps _ => kept s steps) step events s last
    [] [] start run

/-! ## Reaching states -/

/-- Some run leads from the first state to the second. -/
def Reaches (apply : σ → ε → Option σ) (s last : σ) : Prop :=
  ∃ events, last? apply s events = some last

variable {s mid next last : σ}

theorem Reaches.refl (s : σ) : Reaches apply s s := ⟨[], rfl⟩

theorem Reaches.head {e : ε} (happens : apply s e = some next) (later : Reaches apply next last) :
    Reaches apply s last := by
  obtain ⟨events, run⟩ := later
  refine ⟨e :: events, ?_⟩
  rw [last?, happens]
  exact run

theorem Reaches.one {e : ε} (happens : apply s e = some next) : Reaches apply s next :=
  .head happens (.refl next)

theorem Reaches.trans (first : Reaches apply s mid) (later : Reaches apply mid last) :
    Reaches apply s last := by
  obtain ⟨events, run⟩ := first
  induction events generalizing s with
  | nil =>
    cases run
    exact later
  | cons e rest ih =>
    rw [last?] at run
    cases happens : apply s e with
    | none => simp [happens] at run
    | some next =>
      rw [happens] at run
      exact .head happens (ih run)

/-! ## Order -/

/-- Everything that was noted fits what had been noted before it. -/
def Always (fits : List δ → δ → Prop) (h : List δ) : Prop :=
  ∀ past d later, h = past ++ d :: later → fits past d

variable {fits : List δ → δ → Prop} {h k : List δ}

theorem always_nil : Always fits [] := fun past d later eq => by simp at eq

theorem Always.append (before : Always fits h)
    (now : ∀ past d later, k = past ++ d :: later → fits (h ++ past) d) :
    Always fits (h ++ k) := by
  intro past d later eq
  rcases List.append_eq_append_iff.1 eq with ⟨past', rfl, rest⟩ | ⟨later', split, rest⟩
  · exact now past' d later rest
  · cases later' with
    | nil =>
      rw [List.append_nil] at split
      subst split
      simpa using now [] d later rest.symm
    | cons d' later' =>
      obtain ⟨rfl, -⟩ := List.cons.inj rest
      exact before past d later' split

theorem Always.mono {looser : List δ → δ → Prop} (always : Always fits h)
    (implies : ∀ past d, fits past d → looser past d) : Always looser h :=
  fun past d later eq => implies past d (always past d later eq)

theorem Always.of_append (always : Always fits (h ++ k)) : Always fits h := by
  intro past d later eq
  refine always past d (later ++ k) ?_
  rw [eq, List.append_assoc]
  rfl

theorem Always.concat_fits {d : δ} (always : Always fits (h ++ [d])) : fits h d := always h d [] rfl

theorem Always.concat {d : δ} (before : Always fits h) (now : fits h d) :
    Always fits (h ++ [d]) := by
  refine before.append fun past d' later eq => ?_
  cases past with
  | nil =>
    obtain ⟨rfl, -⟩ := List.cons.inj eq
    simpa using now
  | cons first past => simp at eq

/-- What follows from fitting what was noted before, if all of that has it, holds of everything. -/
theorem Always.forall_mem {holds : δ → Prop} (always : Always fits h)
    (step : ∀ past d later, h = past ++ d :: later → (∀ x ∈ past, holds x) → fits past d → holds d) :
    ∀ d ∈ h, holds d := by
  have upTo (past later : List δ) (split : h = past ++ later) : ∀ d ∈ past, holds d := by
    induction past using List.reverseRecOn generalizing later with
    | nil => exact fun d mem => nomatch mem
    | append_singleton past last ih =>
      have next : h = past ++ last :: later := by rw [split, List.append_assoc]; rfl
      have before := ih (last :: later) next
      intro d mem
      rcases List.mem_append.1 mem with old | new
      · exact before d old
      · rw [List.mem_singleton.1 new]
        exact step past last later next before (always past last later next)
  exact upTo h [] (List.append_nil h).symm

/-- Everything relates to what comes later, if it relates to what comes next. -/
theorem Always.pairwise {R : δ → δ → Prop} [Trans R R R]
    (always : Always (fun past d => ∀ last ∈ past.getLast?, R last d) h) : h.Pairwise R := by
  refine List.isChain_iff_pairwise.1 ?_
  induction h using List.reverseRecOn with
  | nil => exact .nil
  | append_singleton h d ih =>
    refine List.isChain_append.2 ⟨ih always.of_append, List.isChain_singleton d, ?_⟩
    intro last at_ next here
    cases here
    exact always.concat_fits last at_

/-- What is still to come fits what was noted before it. -/
def AlwaysFrom (fits : List δ → δ → Prop) : List δ → List δ → Prop
  | _, [] => True
  | past, d :: rest => fits past d ∧ AlwaysFrom fits (past ++ [d]) rest

theorem alwaysFrom_iff {past : List δ} :
    AlwaysFrom fits past h ↔
      ∀ before d later, h = before ++ d :: later → fits (past ++ before) d := by
  induction h generalizing past with
  | nil => simp [AlwaysFrom]
  | cons d rest ih =>
    rw [AlwaysFrom, ih]
    constructor
    · rintro ⟨first, others⟩ before d' later eq
      cases before with
      | nil =>
        obtain ⟨rfl, -⟩ := List.cons.inj eq
        simpa using first
      | cons d'' before =>
        obtain ⟨rfl, rfl⟩ := List.cons.inj eq
        simpa using others before d' later rfl
    · intro all
      refine ⟨by simpa using all [] d rest rfl, fun before d' later eq => ?_⟩
      simpa using all (d :: before) d' later (by rw [eq]; rfl)

instance [∀ past d, Decidable (fits past d)] :
    (past h : List δ) → Decidable (AlwaysFrom fits past h)
  | _, [] => inferInstanceAs (Decidable True)
  | past, d :: rest =>
    have := instDecidableAlwaysFrom (past ++ [d]) rest
    inferInstanceAs (Decidable (fits past d ∧ AlwaysFrom fits (past ++ [d]) rest))

instance [∀ past d, Decidable (fits past d)] : Decidable (Always fits h) :=
  decidable_of_iff (AlwaysFrom fits [] h) alwaysFrom_iff

end JobNode.Run
