import JobNode.Proofs.Instant.Order
import JobNode.Proofs.Store.Columns

/-!
# Jobs are listed the oldest first, to the microsecond

Memory and the job table sort the same list, the jobs of an account in the order of their first
save: memory by the time of creation, the table by its text, which is cut to microseconds.  So the
table lists jobs in the order of their times where years have four digits, and jobs of one
microsecond in the order of their first saves.

* `pairwise_mergeSort_stable`: sorting keeps the order of what it does not tell apart.
* `Memory.pairwise_savedBefore`: memory keeps jobs in the order of their first saves.
* `Database.table_list_eq`: the table sorts what memory sorts.
* `Database.listed_in_order`: the order of both lists, and when that of the table is right.
-/

namespace JobNode

/-! ## Sorting -/

section Sorting

variable {α β : Type} {le : α → α → Bool} {le' : β → β → Bool} {R : α → β → Prop}

/-- Sorting keeps the order of what it does not tell apart. -/
theorem pairwise_mergeSort_stable {before : α → α → Prop}
    (trans : ∀ a b c, le a b → le b c → le a c) (total : ∀ a b, le a b || le b a)
    {l : List α} (placed : l.Pairwise before) :
    (l.mergeSort le).Pairwise fun a b => le a b ∧ (le b a → before a b) := by
  refine (List.pairwise_mergeSort trans total l).and ?_
  induction l with
  | nil => simp
  | cons a l ih =>
    obtain ⟨first, later⟩ := List.pairwise_cons.1 placed
    -- the first one goes in front of all that do not have to come before it
    obtain ⟨front, back, sorted, rest, less⟩ := List.mergeSort_cons trans total a l
    have still := ih later
    rw [rest, List.pairwise_append] at still
    obtain ⟨fronts, backs, across⟩ := still
    rw [sorted, List.pairwise_append, List.pairwise_cons]
    refine ⟨fronts, ⟨fun b mem _ => first b ?_, backs⟩, fun b mem c mem' => ?_⟩
    · have there : b ∈ l.mergeSort le := rest ▸ List.mem_append_right front mem
      exact List.mem_mergeSort.1 there
    · rcases List.mem_cons.1 mem' with rfl | mem'
      · intro back
        have := less b mem
        simp [back] at this
      · exact across b mem c mem'

/-- Lists that correspond do so when they are sorted, if the orders correspond. -/
theorem forall₂_mergeSort {xs : List α} {ys : List β} (held : List.Forall₂ R xs ys)
    (same : ∀ a a' b b', R a a' → R b b' → le a b = le' a' b') :
    List.Forall₂ R (xs.mergeSort le) (ys.mergeSort le') := by
  obtain ⟨length, pairs⟩ := List.forall₂_iff_zip.1 held
  have left : (xs.zip ys).map Prod.fst = xs := List.map_fst_zip (Nat.le_of_eq length)
  have right : (xs.zip ys).map Prod.snd = ys := List.map_snd_zip (Nat.le_of_eq length.symm)
  generalize xs.zip ys = zipped at *
  subst left right
  rw [← List.map_mergeSort (r := fun p q => le p.1 q.1) fun p _ q _ => rfl,
    ← List.map_mergeSort (r := fun p q => le p.1 q.1) fun p mem q mem' =>
      same _ _ _ _ (pairs mem) (pairs mem')]
  rw [List.forall₂_map_left_iff, List.forall₂_map_right_iff, List.forall₂_same]
  exact fun p mem => pairs (List.mem_mergeSort.1 mem)

theorem two_of_mem {a b : α} {l : List α} (mem : a ∈ l) (mem' : b ∈ l) (ne : a ≠ b) :
    [a, b].Sublist l ∨ [b, a].Sublist l := by
  obtain ⟨front, back, rfl⟩ := List.append_of_mem mem
  rcases List.mem_append.1 mem' with before | after
  · refine .inr ?_
    exact (List.singleton_sublist.2 before).append (List.singleton_sublist.2 List.mem_cons_self)
  · rcases List.mem_cons.1 after with rfl | after
    · exact absurd rfl ne
    · exact .inl (((List.singleton_sublist.2 after).cons_cons a).trans (List.sublist_append_right _ _))

/-- A list that is in strict order is in another one too, if this one allows all that the first
demands. -/
theorem pairwise_iff_of_asymm {before later : α → α → Prop} (asymm : ∀ a b, before a b → ¬ before b a)
    {l : List α} (placed : l.Pairwise before) :
    l.Pairwise later ↔ ∀ a ∈ l, ∀ b ∈ l, before a b → later a b := by
  refine ⟨fun pairs a mem b mem' => ?_, fun all => ?_⟩
  · intro first
    -- of two that are in order, the second does not stand in front of the first
    have same : a ≠ b := fun same => asymm a b first (same ▸ first)
    rcases two_of_mem mem mem' same with sub | sub
    · exact List.pairwise_iff_forall_sublist.1 pairs sub
    · exact absurd (List.pairwise_iff_forall_sublist.1 placed sub) (asymm a b first)
  · exact placed.imp_of_mem fun mem mem' first => all _ mem _ mem' first

end Sorting

/-! ## Jobs in the order of their first save -/

namespace Memory

variable {jobs : List Job} {m : Memory} {account : AccountId}

/-- The key was saved for the first time before the other one. -/
def SavedBefore (jobs : List Job) (key other : JobKey) : Prop :=
  (jobs.map Job.key).idxOf key < (jobs.map Job.key).idxOf other

instance (key other : JobKey) : Decidable (SavedBefore jobs key other) :=
  inferInstanceAs (Decidable (_ < _))

/-- The jobs of an account, in the order of their first save. -/
def ofAccount (m : Memory) (account : AccountId) : List Job :=
  (m.records.entries.filter fun e => e.1.account = account).map (·.2)

/-- What is listed is sorted from there. -/
theorem list_eq (m : Memory) (account : AccountId) :
    m.list account = (m.ofAccount account).mergeSort fun a b => a.createdAt ≤ b.createdAt := rfl

/-- A key that is put keeps its place, or comes last. -/
theorem keys_putEntry (key : JobKey) (job : Job) (entries : List (JobKey × Job)) :
    (Keyed.putEntry key job entries).map (·.1) =
      if key ∈ entries.map (·.1) then entries.map (·.1) else entries.map (·.1) ++ [key] := by
  induction entries with
  | nil => simp [Keyed.putEntry]
  | cons entry rest ih =>
    obtain ⟨own, old⟩ := entry
    rw [Keyed.putEntry]
    by_cases here : own = key
    · simp [here]
    · simp only [here, if_false, List.map_cons, ih, List.mem_cons, Ne.symm here, false_or]
      split <;> rfl

theorem mem_keys_ofJobs {key : JobKey} :
    key ∈ (ofJobs jobs).records.entries.map (·.1) ↔ key ∈ jobs.map Job.key := by
  induction jobs using List.reverseRecOn with
  | nil => simp [ofJobs, empty, Keyed.empty]
  | append_singleton jobs job ih =>
    rw [ofJobs, List.foldl_concat]
    change key ∈ (Keyed.putEntry job.key job (ofJobs jobs).records.entries).map (·.1) ↔ _
    rw [keys_putEntry, List.map_append, List.mem_append, ← ih]
    split
    next known =>
      refine ⟨.inl, fun mem => mem.elim id fun last => ?_⟩
      rw [List.mem_singleton.1 last]
      exact known
    next => rw [List.mem_append]; rfl

/-- Jobs are kept in the order of their first save. -/
theorem pairwise_savedBefore (jobs : List Job) :
    ((ofJobs jobs).records.entries.map (·.1)).Pairwise (SavedBefore jobs) := by
  induction jobs using List.reverseRecOn with
  | nil => simp [ofJobs, empty, Keyed.empty]
  | append_singleton jobs job ih =>
    have place {key : JobKey} (mem : key ∈ (ofJobs jobs).records.entries.map (·.1)) :
        ((jobs ++ [job]).map Job.key).idxOf key = (jobs.map Job.key).idxOf key := by
      rw [List.map_append, List.idxOf_append_of_mem (mem_keys_ofJobs.1 mem)]
    have still : ((ofJobs jobs).records.entries.map (·.1)).Pairwise
        (SavedBefore (jobs ++ [job])) := by
      refine ih.imp_of_mem fun mem mem' before => ?_
      rw [SavedBefore, place mem, place mem']
      exact before
    rw [ofJobs, List.foldl_concat]
    change ((Keyed.putEntry job.key job (ofJobs jobs).records.entries).map (·.1)).Pairwise _
    rw [keys_putEntry]
    split
    next => exact still
    next new =>
      refine List.pairwise_append.2 ⟨still, List.pairwise_singleton _ _, fun key mem last at_ => ?_⟩
      rw [List.mem_singleton.1 at_, SavedBefore, place mem, List.map_append,
        List.idxOf_append_of_notMem (mt mem_keys_ofJobs.2 new)]
      have inside := List.idxOf_lt_length_iff.2 (mem_keys_ofJobs.1 mem)
      omega

theorem pairwise_ofAccount (jobs : List Job) (account : AccountId) :
    ((ofJobs jobs).ofAccount account).Pairwise fun a b => SavedBefore jobs a.key b.key := by
  have placed := List.pairwise_map.1 (pairwise_savedBefore jobs)
  refine List.pairwise_map.2 ((placed.sublist List.filter_sublist).imp_of_mem ?_)
  intro a b mem mem' before
  rw [key_of_get? (mem_entries_iff.1 (List.mem_filter.1 mem).1),
    key_of_get? (mem_entries_iff.1 (List.mem_filter.1 mem').1)]
  exact before

/-- Memory lists the oldest first, at full precision. -/
theorem pairwise_list (m : Memory) (account : AccountId) :
    (m.list account).Pairwise fun a b => a.createdAt ≤ b.createdAt := by
  have sorted : (m.list account).Pairwise fun a b => decide (a.createdAt ≤ b.createdAt) := by
    refine List.pairwise_mergeSort (fun a b c first second => ?_) (fun a b => ?_) _
    · simpa using Instant.le_trans (by simpa using first) (by simpa using second)
    · simpa using Instant.le_total a.createdAt b.createdAt
  exact sorted.imp fun le => of_decide_eq_true le

/-- Times of creation are kept where any two jobs with one key have the same. -/
theorem KeepsCreation.of_pairwise (jobs : List Job)
    (same : jobs.Pairwise fun job next => job.key = next.key → next.createdAt = job.createdAt)
    (key : JobKey) : KeepsCreation jobs key := by
  refine List.Pairwise.isChain ((same.sublist List.filter_sublist).imp_of_mem ?_)
  intro job next mem mem' kept
  refine kept ?_
  rw [of_decide_eq_true (List.mem_filter.1 mem).2, of_decide_eq_true (List.mem_filter.1 mem').2]

end Memory

/-! ## The table -/

namespace Database

variable {m : Memory} {t : Table} {jobs : List Job} {account : AccountId}

/-- Rows of an account have the time of creation of the jobs they hold, cut to microseconds. -/
theorem createdAt_of_files (files : t.Files jobs)
    (keeps : ∀ key : JobKey, key.account = account → Memory.KeepsCreation jobs key)
    (row : Row) (mem : row ∈ t.rows.filter fun r => r.accountId = account.toText) :
    ∀ job, row.job = .ok job → row.createdAt = job.createdAt.toMicrosText := by
  intro job holds
  obtain ⟨there, own⟩ := List.mem_filter.1 mem
  obtain ⟨last, filed⟩ := files.rows row there
  cases holds.symm.trans filed.describes.record
  have mine : last.account = account := by
    have named : row.accountId = last.account.toText := filed.describes.accountId
    rw [← AccountId.toText_inj, ← named]
    exact of_decide_eq_true own
  exact filed.createdAt_eq (keeps last.key mine)

/-- The table sorts what the records show of the jobs that memory sorts, by the text of the time of
creation. -/
theorem table_list_eq (mirrors : Mirrors t m) (files : t.Files jobs)
    (keeps : ∀ key : JobKey, key.account = account → Memory.KeepsCreation jobs key) :
    t.list account = .ok (((m.ofAccount account).map Job.written).mergeSort fun a b =>
      a.createdAt.toMicrosText ≤ b.createdAt.toMicrosText) := by
  have held := (List.forall₂_and_left _ _).2
    ⟨createdAt_of_files files keeps, Mirrors.filter_rows mirrors account⟩
  let byText (a b : Row) : Bool := a.createdAt ≤ b.createdAt
  let byTime (a b : JobKey × Job) : Bool :=
    a.2.written.createdAt.toMicrosText ≤ b.2.written.createdAt.toMicrosText
  let Filed (row : Row) (e : JobKey × Job) : Prop :=
    (∀ job, row.job = .ok job → row.createdAt = job.createdAt.toMicrosText) ∧ row.Holds e
  have alike (a : Row) (a' : JobKey × Job) (b : Row) (b' : JobKey × Job) (left : Filed a a')
      (right : Filed b b') : byText a b = byTime a' b' := by
    simp only [byText, byTime, left.1 _ left.2.job, right.1 _ right.2.job]
  have sorted := forall₂_mergeSort held alike
  have read := Mirrors.mapM_rows (sorted.imp fun row entry both => both.2)
  rw [List.map_mergeSort (f := fun e : JobKey × Job => e.2.written)
    (s := fun a b : Job => decide (a.createdAt.toMicrosText ≤ b.createdAt.toMicrosText))
    fun a _ b _ => rfl] at read
  rw [Memory.ofAccount, List.map_map]
  exact read

theorem list_after (events : List Event) (account : AccountId)
    (opened : (fresh.after events).isOpen = true)
    (keeps : ∀ key : JobKey, key.account = account →
      Memory.KeepsCreation (fresh.saved events) key) :
    (fresh.after events).list account =
      .ok ((((Memory.ofJobs (fresh.saved events)).ofAccount account).map Job.written).mergeSort
        fun a b => a.createdAt.toMicrosText ≤ b.createdAt.toMicrosText) := by
  obtain ⟨t, made, files⟩ := files_after follows_fresh rfl Table.files_empty events
  obtain ⟨t', made', mirrors⟩ := (follows_fresh.after events).table
  rw [List.nil_append] at files
  cases made.symm.trans made'
  have there : (fresh.after events).table = .ok t := by rw [table, if_pos opened, made]
  simp only [Database.list, there, bind, Except.bind]
  exact table_list_eq mirrors files keeps

/-- The table lists the first job before the second: its time of creation has the lesser text, or
the two texts are one and it was saved first. -/
def Precedes (jobs : List Job) (a b : Job) : Prop :=
  a.createdAt.toMicrosText < b.createdAt.toMicrosText ∨
    a.createdAt.toMicrosText = b.createdAt.toMicrosText ∧ Memory.SavedBefore jobs a.key b.key

theorem pairwise_precedes (jobs : List Job) (account : AccountId) :
    ((((Memory.ofJobs jobs).ofAccount account).map Job.written).mergeSort fun a b =>
      a.createdAt.toMicrosText ≤ b.createdAt.toMicrosText).Pairwise (Precedes jobs) := by
  let byText (a b : Job) : Bool := a.createdAt.toMicrosText ≤ b.createdAt.toMicrosText
  have trans (a b c : Job) (first : byText a b) (second : byText b c) : byText a c := by
    simpa [byText] using String.le_trans (of_decide_eq_true first) (of_decide_eq_true second)
  have total (a b : Job) : byText a b || byText b a := by
    simpa [byText] using String.le_total a.createdAt.toMicrosText b.createdAt.toMicrosText
  have placed : (((Memory.ofJobs jobs).ofAccount account).map Job.written).Pairwise
      fun a b => Memory.SavedBefore jobs a.key b.key :=
    List.pairwise_map.2 (Memory.pairwise_ofAccount jobs account)
  have sorted := pairwise_mergeSort_stable trans total placed
  refine sorted.imp fun {a b} both => ?_
  obtain ⟨first, before⟩ := both
  by_cases back : b.createdAt.toMicrosText ≤ a.createdAt.toMicrosText
  · exact .inr ⟨String.le_antisymm (of_decide_eq_true first) back, before (decide_eq_true back)⟩
  · exact .inl (String.not_le.1 back)

theorem Precedes.asymm (a b : Job) (first : Precedes jobs a b) : ¬ Precedes jobs b a := by
  rintro (back | ⟨same, back⟩)
  · rcases first with less | ⟨same, -⟩
    · exact String.lt_asymm back less
    · exact String.ne_of_lt back same.symm
  · rcases first with less | ⟨-, saved⟩
    · exact String.ne_of_lt less same.symm
    · exact Nat.lt_asymm back saved

/-- **Jobs are listed the oldest first, to the microsecond.**  Let a database and memory be given the
same jobs, each saved again with the time of creation it had.  Memory lists the jobs of an account
by their time of creation, at full precision.  The database lists the same jobs, as their records show
them, by the text of that time, and by their first saves where it is the same, so the list is in the
order of the times just if these two agree with them.  Where years have four digits it always is to
the microsecond, and to the nanosecond just if jobs of one microsecond were first saved in the order
of their times. -/
theorem listed_in_order (events : List Event) (account : AccountId)
    (opened : (fresh.after events).isOpen = true)
    (keeps : ∀ key : JobKey, key.account = account →
      Memory.KeepsCreation (fresh.saved events) key) :
    let jobs := fresh.saved events
    let m := Memory.ofJobs jobs
    (m.list account).Pairwise (fun a b => a.createdAt ≤ b.createdAt) ∧
    ∃ found, (fresh.after events).list account = .ok found ∧
      found.Perm ((m.list account).map Job.written) ∧ found.Pairwise (Precedes jobs) ∧
      (found.Pairwise (fun a b => a.createdAt ≤ b.createdAt) ↔
        ∀ a ∈ found, ∀ b ∈ found, Precedes jobs a b → a.createdAt ≤ b.createdAt) ∧
      ((∀ job ∈ found, job.createdAt.FourDigits) →
        found.Pairwise (fun a b => a.createdAt.toMicros ≤ b.createdAt.toMicros) ∧
        (found.Pairwise (fun a b => a.createdAt ≤ b.createdAt) ↔
          ∀ a ∈ found, ∀ b ∈ found, a.createdAt.toMicros = b.createdAt.toMicros →
            Memory.SavedBefore jobs a.key b.key → a.createdAt ≤ b.createdAt)) := by
  intro jobs m
  have placed := pairwise_precedes jobs account
  have criterion {found : List Job} (placed : found.Pairwise (Precedes jobs)) :
      found.Pairwise (fun a b => a.createdAt ≤ b.createdAt) ↔
        ∀ a ∈ found, ∀ b ∈ found, Precedes jobs a b → a.createdAt ≤ b.createdAt :=
    pairwise_iff_of_asymm Precedes.asymm placed
  -- what a record shows has regular times
  have regular {job : Job} (mem : job ∈ ((m.ofAccount account).map Job.written).mergeSort fun a b =>
      a.createdAt.toMicrosText ≤ b.createdAt.toMicrosText) : job.createdAt.Regular := by
    obtain ⟨first, -, rfl⟩ := List.mem_map.1 (List.mem_mergeSort.1 mem)
    exact first.createdAt.regular_written
  refine ⟨m.pairwise_list account, _, ?_, ?_, placed, criterion placed, fun years => ⟨?_, ?_⟩⟩
  · exact list_after events account opened keeps
  · rw [m.list_eq]
    exact (List.mergeSort_perm _ _).trans ((List.mergeSort_perm _ _).symm.map _)
  · refine placed.imp_of_mem fun {a b} mem mem' first => ?_
    refine (Instant.toMicrosText_le_iff (regular mem) (regular mem') (years a mem)
      (years b mem')).1 ?_
    rcases first with less | ⟨same, -⟩
    · exact String.lt_asymm less
    · simp only [same, String.le_refl]
  · refine (criterion placed).trans
      ⟨fun all a mem b mem' same saved => ?_, fun all a mem b mem' first => ?_⟩
    · exact all a mem b mem'
        (.inr ⟨(Instant.toMicrosText_eq_iff (regular mem) (regular mem') (years a mem)
          (years b mem')).2 same, saved⟩)
    · rcases first with less | ⟨same, saved⟩
      · refine Instant.le_of_not_toMicros_le fun back => String.not_le.2 less ?_
        exact (Instant.toMicrosText_le_iff (regular mem') (regular mem) (years b mem')
          (years a mem)).2 back
      · refine all a mem b mem' ?_ saved
        exact (Instant.toMicrosText_eq_iff (regular mem) (regular mem') (years a mem)
          (years b mem')).1 same

/-- A job created some nanoseconds after the start of 2001. -/
def sampleMoment (n nanoseconds : Nat) (fits : nanoseconds < 1000) : Job :=
  .create ⟨.ofNat n⟩ .zero "anchor" ⟨978307200, nanoseconds, by decide, by decide, by omega⟩

/-- A job created at the last instant, in a year of six digits. -/
def sampleFuture : Job := .create ⟨.ofNat 3⟩ .zero "anchor" .last

/-- Jobs saved in the order of their times, the first of them once more at the end. -/
def sampleOrder : List Event :=
  let first := sampleMoment 4 100 (by decide)
  [.save first .epoch, .save (sampleMoment 5 900 (by decide)) .epoch, .close, .reopen,
    .save { first with status := .success } .epoch]

theorem sampleOrder_listed :
    ∃ found, (fresh.after sampleOrder).list .zero = .ok found ∧
      found.Pairwise fun a b => a.createdAt ≤ b.createdAt := by
  have keeps := Memory.KeepsCreation.of_pairwise (fresh.saved sampleOrder) (by decide)
  obtain ⟨-, found, listed, same, -, -, years⟩ :=
    listed_in_order sampleOrder .zero rfl fun key _ => keeps key
  have saved {job : Job} (mem : job ∈ found) :
      ∃ first ∈ fresh.saved sampleOrder, first.written = job := by
    obtain ⟨last, listed, rfl⟩ := List.mem_map.1 (same.mem_iff.1 mem)
    have there := (Memory.mem_list_iff.1 listed).2
    rw [Memory.get?_ofJobs] at there
    exact ⟨last, (List.mem_filter.1 (List.mem_of_getLast? there)).1, rfl⟩
  have four : ∀ job ∈ fresh.saved sampleOrder, job.written.createdAt.FourDigits := by decide
  have placed : ∀ a ∈ fresh.saved sampleOrder, ∀ b ∈ fresh.saved sampleOrder,
      Memory.SavedBefore (fresh.saved sampleOrder) a.key b.key →
        a.written.createdAt ≤ b.written.createdAt := by
    decide
  refine ⟨found, listed, (years fun job mem => ?_).2.2 fun a mem b mem' _ => ?_⟩
  · obtain ⟨first, there, rfl⟩ := saved mem
    exact four first there
  · obtain ⟨first, there, rfl⟩ := saved mem
    obtain ⟨next, there', rfl⟩ := saved mem'
    exact placed first there next there'

theorem list_two {a b : Job} (own : a.account = .zero) (own' : b.account = .zero)
    (ne : a.key ≠ b.key) (shown : a.written = a) (shown' : b.written = b)
    (first : a.createdAt.toMicrosText ≤ b.createdAt.toMicrosText) :
    (fresh.after [.save a .epoch, .save b .epoch]).list .zero = .ok [a, b] := by
  have keeps := Memory.KeepsCreation.of_pairwise [a, b] (by simp [ne])
  have entries : (Memory.ofJobs [a, b]).records.entries = [(a.key, a), (b.key, b)] := by
    simp [Memory.ofJobs, Memory.save, Memory.empty, Keyed.empty, Keyed.put, Keyed.putEntry, ne]
  have kept : (Memory.ofJobs [a, b]).ofAccount .zero = [a, b] := by
    simp [Memory.ofAccount, entries, Job.key, own, own']
  have listed := list_after [.save a .epoch, .save b .epoch] .zero rfl fun key _ => keeps key
  change _ = Except.ok ((((Memory.ofJobs [a, b]).ofAccount .zero).map Job.written).mergeSort _)
    at listed
  rw [listed, kept, List.map_cons, List.map_singleton, shown, shown',
    List.mergeSort_of_pairwise (by simpa using first)]

/-- A job is listed before an older one of the same microsecond that was saved after it, and a job
of a year with six digits before one of the year 2001. -/
theorem younger_listed_first :
    (let younger := sampleMoment 1 900 (by decide)
     let older := sampleMoment 2 100 (by decide)
     (fresh.after [.save younger .epoch, .save older .epoch]).list .zero = .ok [younger, older] ∧
      ¬ younger.createdAt ≤ older.createdAt) ∧
    (let older := sampleMoment 1 0 (by decide)
     (fresh.after [.save sampleFuture .epoch, .save older .epoch]).list .zero =
      .ok [sampleFuture, older] ∧ ¬ sampleFuture.createdAt ≤ older.createdAt) := by
  refine ⟨⟨list_two rfl rfl (by decide) (by decide) (by decide) (by decide), by decide⟩,
    list_two rfl rfl (by decide) (by decide) (by decide) ?_, by decide⟩
  exact String.lt_asymm (Instant.toMicrosText_lt_of_late (by decide) (by decide))

end Database

end JobNode
