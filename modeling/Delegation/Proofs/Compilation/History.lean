import Delegation.Proofs.Compilation.Standing
import Delegation.Proofs.Snapshot.Order

/-!
# The history of a run

A run only ever adds to its snapshot: what is written there is what was written in the beginning,
and after it the base classes in the order in which they were generated.  Each of them was judged by
the snapshot of its round, in which the classes of earlier rounds were to be seen and those of the
same round were not.  So what a run has done can be read off the list of its base classes with their
rounds, and all that the rounds themselves decided is in this list.

## Main Definitions

* `Making` — a base class that was generated, for which class and in which round.
* `Making.Justified` — the judgement that led to it.
* `Run.History` — a run has added these base classes to what was there, and nothing else.

## Main Statements

* `Pass.exists_makings_of_run` — the base classes of one pass.
* `Run.History.round` — a round that ends well adds the base classes of its pass.
* `Run.exists_history_of_rounds` — every compilation that ends well has a history.
-/

namespace Delegation

open Java

/-- Types are still to come when the round of an entry has not come. -/
theorem Snapshot.hasLaterRounds_iff {snapshot : Snapshot} :
    snapshot.hasLaterRounds ↔ ∃ entry ∈ snapshot.written, snapshot.round < entry.round := by
  rw [hasLaterRounds, ← Array.any_toList, List.any_eq_true, written]
  simp [Entry.written]

/-- No types are to come when the rounds of all entries have come. -/
theorem Snapshot.hasLaterRounds_eq_false_iff {snapshot : Snapshot} :
    snapshot.hasLaterRounds = false ↔ ∀ entry ∈ snapshot.written, entry.round ≤ snapshot.round := by
  rw [Bool.eq_false_iff, ne_eq, hasLaterRounds_iff]
  simp only [not_exists, not_and, Nat.not_lt]

/-- A base class that was generated. -/
structure Making where
  /-- The annotated class that it belongs to. -/
  type : ClassName
  base : BaseClass
  /-- The round in which it was generated. -/
  round : Nat
deriving DecidableEq, Repr, Inhabited

namespace Making

/-- What is written in a snapshot about a base class that has joined it. -/
def entry (making : Making) : Entry := (Entry.ofBase making.base making.round).written

@[simp] theorem name_entry (making : Making) : making.entry.name = making.base.name := rfl

@[simp] theorem round_entry (making : Making) : making.entry.round = making.round := rfl

@[simp] theorem request?_entry (making : Making) : making.entry.decl.request? = none := rfl

/-- A base class is justified by the snapshot of its round, to which the initial snapshot and some
earlier base classes had come: there the class that it belongs to was visible and was judged to get
this base class. -/
inductive Justified (initial : Snapshot) (earlier : List Making) (making : Making) : Prop
  | judged {snapshot : Snapshot} {decl : TypeDecl} {result : Synthesised}
      (reached : snapshot.Reached) (now : snapshot.round = making.round)
      (written : snapshot.written = initial.written ++ earlier.map entry)
      (found : snapshot.table.lookup making.type = some decl)
      (judged : judge snapshot.table decl = .generate result) (base : result.base = making.base)

/-- A justified base class has the name that belongs to its class. -/
theorem Justified.name_base {initial : Snapshot} {earlier : List Making} {making : Making}
    (justified : making.Justified initial earlier) : making.base.name = making.type.generated := by
  obtain ⟨reached, -, -, found, judged, base⟩ := justified
  rw [← base, name_base_of_judge judged, reached.wellFormed.lawful _ _ found]

/-- The base classes that had joined when a round began. -/
def before (makings : List Making) (round : Nat) : List Making := makings.filter (·.round < round)

theorem mem_before_iff {makings : List Making} {round : Nat} {making : Making} :
    making ∈ before makings round ↔ making ∈ makings ∧ making.round < round := by
  simp [before]

/-- What is generated from a round on had not joined when the round began. -/
theorem before_append {makings new : List Making} {round : Nat}
    (past : ∀ making ∈ makings, making.round < round) (now : ∀ making ∈ new, making.round = round) :
    before (makings ++ new) round = makings ∧
      ∀ earlier ≤ round, before (makings ++ new) earlier = before makings earlier := by
  have notYet : ∀ earlier ≤ round, new.filter (·.round < earlier) = [] := by
    intro earlier le
    refine List.filter_eq_nil_iff.mpr fun making mem => ?_
    rw [now making mem, decide_eq_true_eq]
    omega
  have all : ∀ earlier ≤ round, before (makings ++ new) earlier = before makings earlier := by
    intro earlier le
    rw [before, List.filter_append, notYet earlier le, List.append_nil, before]
  refine ⟨?_, all⟩
  rw [all round (Nat.le_refl _), before, List.filter_eq_self]
  exact fun making mem => decide_eq_true (past making mem)

end Making

/-! ## One pass -/

namespace Pass

variable {σ : Type} {options : Options} {output : Output σ} {table : SymbolTable}
variable {progress : Progress} {annotated : List ClassName} {store : σ} {pass : Pass σ}

/-- The base classes that the judgements on some classes make, with a round to remember. -/
def makings (table : SymbolTable) (round : Nat) (decls : List TypeDecl) : List Making :=
  decls.filterMap fun decl =>
    (judge table decl).result?.map fun result => ⟨decl.name, result.base, round⟩

theorem map_base_makings (table : SymbolTable) (round : Nat) (decls : List TypeDecl) :
    (makings table round decls).map (·.base) = basesAmong table decls := by
  rw [makings, List.map_filterMap, basesAmong]
  refine List.filterMap_congr fun decl _ => ?_
  rw [Option.map_map]
  rfl

theorem map_type_makings (table : SymbolTable) (round : Nat) (decls : List TypeDecl) :
    (makings table round decls).map (·.type) = generatedAmong table decls := by
  induction decls with
  | nil => rfl
  | cons decl rest ih =>
      cases judged : judge table decl with
      | generate result => simpa [makings, generatedAmong, judged] using ih
      | _ => simpa [makings, generatedAmong, judged] using ih

theorem mem_makings_iff {round : Nat} {decls : List TypeDecl} {making : Making} :
    making ∈ makings table round decls ↔
      ∃ decl ∈ decls, ∃ result, judge table decl = .generate result ∧
        making = ⟨decl.name, result.base, round⟩ := by
  rw [makings, List.mem_filterMap]
  refine exists_congr fun decl => and_congr_right fun _ => ?_
  cases judge table decl <;> simp [eq_comm]

/-- A pass that ends well writes base classes for classes that it finds and that were not done
before, one for each, and adds these classes to those that are done. -/
theorem exists_makings_of_run (lawful : table.Lawful)
    (ran : run options output table progress annotated store = (none, pass)) (round : Nat) :
    ∃ new : List Making, (new.map (·.type)).Nodup ∧
      (∀ type ∈ new.map (·.type), type ∉ progress.emitted) ∧
      (∀ type, type ∈ pass.progress.emitted ↔
        type ∈ progress.emitted ∨ type ∈ new.map (·.type)) ∧
      pass.written = new.map (·.base) ∧ pass.report.generated = new.map (·.base.name) ∧
      ∀ making ∈ new, making.round = round ∧ ∃ decl result,
        table.lookup making.type = some decl ∧ judge table decl = .generate result ∧
        result.base = making.base := by
  obtain ⟨-, store', -, rfl⟩ := processAll_eq_none_iff.mp ran
  generalize looked : candidates progress annotated table = decls
  have types := map_type_makings table round decls
  have bases := map_base_makings table round decls
  have among : (generatedAmong table decls).Sublist (decls.map (·.name)) :=
    List.filter_sublist.map _
  refine ⟨makings table round decls, ?_, ?_, fun type => ?_, ?_, ?_, ?_⟩
  · rw [types]
    exact (looked ▸ nodup_map_name_candidates lawful progress annotated).sublist among
  · intro type mem
    have candidate := among.subset (types ▸ mem)
    rw [← looked] at candidate
    exact ((mem_map_name_candidates_iff lawful).mp candidate).2.1
  · rw [mem_emitted_settled, emitted_start, types]
  · rw [bases]
    exact List.nil_append _
  · show [] ++ (basesAmong table decls).map (·.name) = _
    rw [← bases, List.nil_append, List.map_map]
    rfl
  · intro making mem
    obtain ⟨decl, listed, result, judged, rfl⟩ := mem_makings_iff.mp mem
    rw [← looked] at listed
    obtain ⟨name, -, found⟩ := List.mem_filterMap.mp listed
    have named : decl.name = name := lawful name decl found
    exact ⟨rfl, decl, result, named ▸ found, judged, rfl⟩

end Pass

/-! ## One round -/

namespace Run

variable {σ : Type} {options : Options} {output : Output σ}

/-- A run has added base classes to an initial snapshot, in the order of a list, and nothing else.
Each of them belongs to an annotated class of its own, and was justified by what had joined in
earlier rounds. -/
structure History (initial : Snapshot) (makings : List Making) (run : Run σ) : Prop where
  reached : run.snapshot.Reached
  written : run.snapshot.written = initial.written ++ makings.map Making.entry
  nodup : (makings.map (·.type)).Nodup
  emitted_iff : ∀ type, type ∈ run.progress.emitted ↔ type ∈ makings.map (·.type)
  annotated : ∀ type, type ∈ run.progress.deferred ∨ type ∈ run.progress.emitted →
    type ∈ initial.annotations.map Entry.name
  generated : run.summary.generated = makings.map (·.base.name)
  past : ∀ making ∈ makings, 1 ≤ making.round ∧ making.round ≤ run.summary.rounds
  justified : ∀ making ∈ makings, making.Justified initial (Making.before makings making.round)

/-- Before the first round, nothing has been generated. -/
theorem history_start {snapshot : Snapshot} (reached : snapshot.Reached) (store : σ) :
    (start snapshot store).History snapshot [] where
  reached := reached
  written := (List.append_nil _).symm
  nodup := List.nodup_nil
  emitted_iff _ := iff_of_false Std.TreeSet.not_mem_emptyc List.not_mem_nil
  annotated _ known := known.elim (absurd · Std.TreeSet.not_mem_emptyc)
    (absurd · Std.TreeSet.not_mem_emptyc)
  generated := rfl
  past _ mem := absurd mem List.not_mem_nil
  justified _ mem := absurd mem List.not_mem_nil

namespace History

variable {initial : Snapshot} {makings : List Making} {run run' : Run σ} {report : PassReport}

/-- The annotated types stay those of the initial snapshot. -/
theorem annotations (history : run.History initial makings) :
    run.snapshot.annotations = initial.annotations := by
  have none_annotated : (makings.map Making.entry).filter (·.decl.request?.isSome) = [] := by
    refine List.filter_eq_nil_iff.mpr fun entry mem => ?_
    obtain ⟨making, -, rfl⟩ := List.mem_map.mp mem
    simp
  rw [Snapshot.annotations, history.written, List.filter_append, none_annotated, List.append_nil,
    Snapshot.annotations]

/-- Every class that a pass of the next round leaves put off or done is annotated. -/
theorem annotated_of_run (history : run.History initial makings) {round : Nat} (begun : 1 ≤ round)
    {pass : Pass σ} (passed : Pass.run options output (run.snapshot.setRound round).table
      run.progress ((run.snapshot.setRound round).annotatedIn round) run.store = (none, pass))
    {type : ClassName} (known : type ∈ pass.progress.deferred ∨ type ∈ pass.progress.emitted) :
    type ∈ initial.annotations.map Entry.name := by
  have moved : (run.snapshot.setRound round).Reached := .moved history.reached round
  by_contra unknown
  have notNew : type ∉ (run.snapshot.setRound round).annotatedIn round := by
    rw [moved.mem_annotatedIn_iff begun, Snapshot.annotations_setRound, history.annotations]
    rintro ⟨entry, mem, rfl, -⟩
    exact unknown (List.mem_map_of_mem mem)
  have notPending : type ∉ run.progress.deferred := fun pending =>
    unknown (history.annotated type (.inl pending))
  obtain ⟨notPutOff, done_iff, -⟩ :=
    Pass.untouched_of_run moved.wellFormed.lawful passed (.inr ⟨notPending, notNew⟩)
  rcases known with pending | done
  · exact notPutOff pending
  · exact unknown (history.annotated type (.inr (done_iff.mp done)))

/-- A round that ends well adds the base classes of its pass. -/
theorem round (history : run.History initial makings)
    (ran : run.round options output = (.ok report, run')) :
    ∃ new : List Making, (∀ making ∈ new, making.round = run'.summary.rounds) ∧
      (run.pass options output).2.written = new.map (·.base) ∧
      report.generated = new.map (·.base.name) ∧ run'.History initial (makings ++ new) := by
  obtain ⟨pass, snapshot', passed, joined, rfl, rfl⟩ := round_eq_ok_iff.mp ran
  have itsPass : (run.pass options output).2 = pass := congrArg Prod.snd passed
  generalize number : run.summary.rounds + 1 = round at *
  have begun : 1 ≤ round := by omega
  have moved : (run.snapshot.setRound round).Reached := .moved history.reached round
  have now : (run.snapshot.setRound round).round = round := by
    rw [Snapshot.round_setRound]
    omega
  have written : (run.snapshot.setRound round).written =
      initial.written ++ makings.map Making.entry := by
    rw [Snapshot.written_setRound, history.written]
  obtain ⟨new, distinct, fresh, grown, bases, reported, made⟩ :=
    Pass.exists_makings_of_run moved.wellFormed.lawful passed round
  have inRound : ∀ making ∈ new, making.round = round := fun making mem => (made making mem).1
  have past : ∀ making ∈ makings, making.round < round := by
    intro making mem
    have := (history.past making mem).2
    omega
  obtain ⟨earlier, unchanged⟩ := Making.before_append past inRound
  refine ⟨new, inRound, by rw [itsPass, bases], reported, ?_⟩
  obtain ⟨reached', -, added⟩ := moved.of_registerAll joined
  constructor
  · exact reached'
  · show snapshot'.written = _
    have entries : new.map Making.entry =
        pass.written.map fun base => (Entry.ofBase base round).written := by
      rw [bases, List.map_map]
      refine List.map_congr_left fun making mem => ?_
      rw [Making.entry, inRound making mem]
      rfl
    rw [added, written, now, ← entries, List.map_append, List.append_assoc]
  · rw [List.map_append]
    refine List.nodup_append.mpr ⟨history.nodup, distinct, ?_⟩
    rintro type old _ recent rfl
    exact fresh type recent ((history.emitted_iff type).mpr old)
  · intro type
    rw [List.map_append, List.mem_append, ← history.emitted_iff]
    exact grown type
  · exact fun type known => history.annotated_of_run begun passed known
  · show run.summary.generated ++ pass.report.generated = _
    rw [reported, history.generated, List.map_append]
  · intro making mem
    show 1 ≤ making.round ∧ making.round ≤ round
    rcases List.mem_append.mp mem with old | recent
    · have first := (history.past making old).1
      have before := past making old
      omega
    · rw [inRound making recent]
      exact ⟨begun, Nat.le_refl _⟩
  · intro making mem
    rcases List.mem_append.mp mem with old | recent
    · rw [unchanged _ (Nat.le_of_lt (past making old))]
      exact history.justified making old
    · obtain ⟨inRound, decl, result, found, judged, base⟩ := made making recent
      rw [inRound, earlier]
      exact .judged moved (now.trans inRound.symm) written found judged base

end History

/-! ## All rounds -/

/-- A compilation that ends well has a history, up to its last round. -/
theorem exists_history_of_rounds {initial : Snapshot} (reached : initial.Reached) {store : σ}
    {left : Nat} {summary : Summary} {final : Run σ}
    (ran : rounds options output left (start initial store) = (.ok summary, final)) :
    ∃ makings report, ∃ before last : Run σ, before.round options output = (.ok report, last) ∧
      last.History initial makings ∧ last.isSettled report ∧
      summary = last.summary ∧ final = last.finish := by
  obtain ⟨before, report, last, -, lastRound, ⟨makings, history⟩, settled, sameSummary, sameRun⟩ :=
    exists_of_rounds (fun run : Run σ => ∃ makings, run.History initial makings)
      (fun ⟨makings, history⟩ ran =>
        have ⟨new, _, _, _, extended⟩ := history.round ran
        ⟨makings ++ new, extended⟩)
      ⟨[], history_start reached store⟩ ran
  exact ⟨makings, report, before, last, lastRound, history, settled, sameSummary, sameRun⟩

end Run

end Delegation
