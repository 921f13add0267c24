import Delegation.Proofs.Compilation.Completion
import Delegation.Proofs.Compilation.Links
import Delegation.Proofs.Pass.Single

/-!
# Chains of base classes

A chain of annotated classes takes a round for each link: in every round one class finds that what it
wants to extend has just come, and all later ones go on waiting.  The constructors of the last base
class take the delegates of the whole chain.

## Main Definitions

* `Run.Awaits` — a run in which some links of the chain are done and the others wait.

## Main Statements

* `Run.Awaits.round`, `Run.Awaits.rounds` — one round, and all rounds.
* `Compilation.chain_generated` — what the compilation of a chain generates.
-/

namespace Delegation

open Java Synthesis

/-! ## One round -/

namespace Run

/-- The snapshot of the round to come. -/
def upcoming (run : Run MemoryStore) : Snapshot := run.snapshot.setRound (run.summary.rounds + 1)

theorem reached_upcoming {run : Run MemoryStore} (reached : run.snapshot.Reached) :
    run.upcoming.Reached := .moved reached _

@[simp] theorem written_upcoming (run : Run MemoryStore) :
    run.upcoming.written = run.snapshot.written := Snapshot.written_setRound _ _

@[simp] theorem round_upcoming (run : Run MemoryStore) :
    run.upcoming.round = run.summary.rounds + 1 := Nat.max_eq_left (Nat.le_add_left 1 _)

@[simp] theorem entryNames_upcoming (run : Run MemoryStore) :
    run.upcoming.entryNames = run.snapshot.entryNames := Snapshot.entryNames_setRound _ _

/-- Some links of a chain are done, and the rest waits for a class, which is there with certain
constructors. -/
structure Awaits (run : Run MemoryStore) (initial : Snapshot) (superclass : ClassName)
    (constructors : List Constructor) (rest : List Link) : Prop where
  reached : run.snapshot.Reached
  kept : ∀ entry ∈ initial.written, entry ∈ run.snapshot.written
  past : ∀ entry ∈ run.snapshot.written, entry.round ≤ run.summary.rounds + 1
  annotations : ∀ entry ∈ run.snapshot.annotations, entry.round = 1
  parent : ∃ entry ∈ run.snapshot.written, entry.name = superclass ∧
    entry.decl.kind = .class_ ∧ entry.decl.constructors = constructors
  awaited : ∀ type, type ∈ rest.map (·.type) ↔ type ∉ run.progress.emitted ∧
    (type ∈ run.progress.deferred ∨ type ∈ run.upcoming.annotatedIn (run.summary.rounds + 1))
  fresh : ∀ link ∈ rest, link.type.generated ∉ run.snapshot.entryNames ∧
    link.type.generated ∉ run.store.files
  clean : Diagnostic.hasErrors run.diagnostics = false

/-- Before the first round, the whole chain waits for the declared class that it starts from. -/
theorem awaits_start {snapshot : Snapshot} (reached : snapshot.Reached) {superclass : TypeDecl}
    {links : List Link} (chain : snapshot.Chain superclass links) :
    (start snapshot MemoryStore.empty).Awaits snapshot superclass.name superclass.constructors
      links where
  reached := reached
  kept _ mem := mem
  past entry mem := Nat.le_of_eq (chain.present entry mem)
  annotations entry mem := chain.present entry (List.mem_of_mem_filter mem)
  parent := by
    obtain ⟨entry, mem, named, -, same⟩ := reached.lookup_eq_some_iff.mp chain.declared
    have isClass := chain.isClass
    rw [← same] at isClass ⊢
    exact ⟨entry, mem, rfl, isClass, rfl⟩
  awaited type := by
    have new : type ∈ (snapshot.setRound 1).annotatedIn 1 ↔ type ∈ links.map (·.type) := by
      rw [(Snapshot.Reached.moved reached 1).mem_annotatedIn_iff (Nat.le_refl 1),
        Snapshot.annotations_setRound, ← chain.annotated.mem_iff, Snapshot.annotated_eq,
        List.mem_map]
      refine exists_congr fun entry => and_congr_right fun mem => and_iff_left ?_
      exact chain.present entry (List.mem_of_mem_filter mem)
    show _ ↔ type ∉ (∅ : ClassNames) ∧ (type ∈ (∅ : ClassNames) ∨
      type ∈ (snapshot.setRound 1).annotatedIn 1)
    rw [new, or_iff_right Std.TreeSet.not_mem_emptyc]
    exact (and_iff_right Std.TreeSet.not_mem_emptyc).symm
  fresh link mem := ⟨chain.undeclared link mem, Std.TreeMap.not_mem_emptyc⟩
  clean := rfl

namespace Awaits

variable {run : Run MemoryStore} {initial : Snapshot} {superclass : ClassName}
variable {constructors : List Constructor} {link : Link} {rest : List Link}

/-- Everything that was there in the beginning is visible in the next round. -/
theorem kept_upcoming (awaits : run.Awaits initial superclass constructors rest) :
    ∀ entry ∈ initial.written,
      entry ∈ run.upcoming.written ∧ entry.round ≤ run.upcoming.round := by
  intro entry mem
  have here := awaits.kept entry mem
  rw [written_upcoming, round_upcoming]
  exact ⟨here, awaits.past entry here⟩

/-- The class that the rest waits for is visible in the next round. -/
theorem exists_parent (awaits : run.Awaits initial superclass constructors rest) :
    ∃ parent, run.upcoming.table.lookup superclass = some parent ∧ parent.kind = .class_ ∧
      parent.constructors = constructors := by
  obtain ⟨entry, mem, named, isClass, same⟩ := awaits.parent
  refine ⟨_, (reached_upcoming awaits.reached).lookup_eq_some_iff.mpr
    ⟨entry, ?_, named, ?_, rfl⟩, isClass, same⟩
  · rw [written_upcoming]
    exact mem
  · rw [round_upcoming]
    exact awaits.past entry mem

/-- The base classes of the rest are not visible in the next round. -/
theorem lookup_generated (awaits : run.Awaits initial superclass constructors rest)
    (mem : link ∈ rest) : run.upcoming.table.lookup link.type.generated = none := by
  by_contra visible
  obtain ⟨entry, listed, named, -⟩ :=
    (reached_upcoming awaits.reached).wellFormed.isSome_lookup_iff.mp
      (Option.isSome_iff_ne_none.mpr visible)
  refine (awaits.fresh link mem).1 ?_
  rw [← Snapshot.map_name_written, ← named, ← written_upcoming]
  exact List.mem_map_of_mem listed

/-- The candidates of the next round are the rest of the chain, as far as they are visible. -/
theorem mem_candidates_iff (awaits : run.Awaits initial superclass constructors rest)
    {type : ClassName} :
    type ∈ (Pass.candidates run.progress (run.upcoming.annotatedIn (run.summary.rounds + 1))
        run.upcoming.table).map (·.name) ↔
      run.upcoming.table.isVisible type ∧ type ∈ rest.map (·.type) := by
  rw [Pass.mem_map_name_candidates_iff (reached_upcoming awaits.reached).wellFormed.lawful,
    awaits.awaited]

/-- In the next round, the base class of the first link can be generated, and all others go on
waiting. -/
theorem judged (awaits : run.Awaits initial superclass constructors (link :: rest))
    (reached : initial.Reached) (linked : initial.Linked superclass (link :: rest)) :
    (∃ decl result, run.upcoming.table.lookup link.type = some decl ∧ decl.name = link.type ∧
      judge run.upcoming.table decl = .generate result ∧ result.base.constructors =
        constructors.map (forwardConstructor (Validation.delegates (unnamed link.interfaces)))) ∧
    ∀ other ∈ rest, ∃ decl, run.upcoming.table.lookup other.type = some decl ∧
      judge run.upcoming.table decl = .defer := by
  have moved := reached_upcoming awaits.reached
  obtain ⟨parent, found, isClass, rfl⟩ := awaits.exists_parent
  cases linked with
  | cons first more =>
      constructor
      · obtain ⟨decl, visible, named, asks⟩ :=
          first.exists_asks reached moved awaits.kept_upcoming
        obtain ⟨result, generated, made⟩ :=
          asks.exists_judge_eq_generate moved.wellFormed.lawful rfl found isClass
        exact ⟨decl, result, visible, named, generated, made⟩
      · intro other mem
        obtain ⟨before, listed, hasLink⟩ := more.exists_before mem
        obtain ⟨decl, visible, -, asks⟩ := hasLink.exists_asks reached moved awaits.kept_upcoming
        exact ⟨decl, visible, asks.judge_eq_defer (ClassName.generated_ne_object _)
          (awaits.lookup_generated listed)⟩

/-- The pass of the next round generates the base class of the first link and puts off the rest. -/
theorem exists_pass (awaits : run.Awaits initial superclass constructors (link :: rest))
    (reached : initial.Reached) (linked : initial.Linked superclass (link :: rest))
    (apart : link.type ∉ rest.map (·.type)) (options : Options) :
    ∃ (pass : Pass MemoryStore) (base : BaseClass),
      Pass.run options MemoryStore.output run.upcoming.table run.progress
        (run.upcoming.annotatedIn (run.summary.rounds + 1)) run.store = (none, pass) ∧
      base.name = link.type.generated ∧
      base.constructors =
        constructors.map (forwardConstructor (Validation.delegates (unnamed link.interfaces))) ∧
      pass.written = [base] ∧ pass.report.generated = [base.name] ∧
      pass.store = run.store.withAll options [base] ∧
      (∀ type, type ∈ pass.progress.deferred ↔ type ∈ rest.map (·.type)) ∧
      (∀ type, type ∈ pass.progress.emitted ↔ type ∈ run.progress.emitted ∨ type = link.type) ∧
      Diagnostic.hasErrors pass.diagnostics = false := by
  obtain ⟨⟨decl, result, found, named, judged, made⟩, others⟩ := awaits.judged reached linked
  have lawful := (reached_upcoming awaits.reached).wellFormed.lawful
  have baseNamed : result.base.name = link.type.generated := by
    rw [name_base_of_judge judged, named]
  have candidate : decl ∈ Pass.candidates run.progress
      (run.upcoming.annotatedIn (run.summary.rounds + 1)) run.upcoming.table := by
    obtain ⟨other, mem, same⟩ := List.mem_map.mp (awaits.mem_candidates_iff.mpr
      ⟨Option.isSome_iff_exists.mpr ⟨decl, found⟩, List.mem_cons_self⟩)
    have here := Pass.lookup_of_mem_candidates lawful mem
    rw [same, found] at here
    rwa [Option.some.inj here]
  have deferring : ∀ other ∈ Pass.candidates run.progress
      (run.upcoming.annotatedIn (run.summary.rounds + 1)) run.upcoming.table,
      other.name ≠ decl.name → judge run.upcoming.table other = .defer := by
    intro other mem different
    have listed := (awaits.mem_candidates_iff.mp (List.mem_map_of_mem mem)).2
    rw [named] at different
    obtain ⟨waiting, waits, same⟩ :=
      List.mem_map.mp ((List.mem_cons.mp listed).resolve_left different)
    obtain ⟨decl', found', deferred⟩ := others waiting waits
    have here := Pass.lookup_of_mem_candidates lawful mem
    rw [← same, found'] at here
    rwa [← Option.some.inj here]
  have unwritten := (awaits.fresh link List.mem_cons_self).2
  obtain ⟨pass, ran, written, reported, stored, putOff, done, quiet⟩ :=
    Pass.exists_run_of_only lawful options candidate judged deferring (baseNamed ▸ unwritten)
  rw [named] at putOff done
  refine ⟨pass, result.base, ran, baseNamed, made, written, reported, stored, fun type => ?_, done,
    quiet⟩
  rw [putOff, awaits.mem_candidates_iff, List.map_cons, List.mem_cons]
  constructor
  · rintro ⟨⟨-, same | waits⟩, different⟩
    · exact absurd same different
    · exact waits
  · intro waits
    obtain ⟨other, mem, rfl⟩ := List.mem_map.mp waits
    obtain ⟨decl', found', -⟩ := others other mem
    refine ⟨⟨Option.isSome_iff_exists.mpr ⟨decl', found'⟩, .inr waits⟩, ?_⟩
    intro same
    exact apart (same ▸ waits)

/-- When the base class of the first link has joined, the rest waits for it. -/
theorem advance (awaits : run.Awaits initial superclass constructors (link :: rest))
    (nodup : ((link :: rest).map (·.type.generated)).Nodup) (apart : link.type ∉ rest.map (·.type))
    {options : Options} {base : BaseClass}
    (named : base.name = link.type.generated) {pass : Pass MemoryStore}
    (stored : pass.store = run.store.withAll options [base])
    (putOff : ∀ type, type ∈ pass.progress.deferred ↔ type ∈ rest.map (·.type))
    (done : ∀ type, type ∈ pass.progress.emitted ↔ type ∈ run.progress.emitted ∨ type = link.type)
    (quiet : Diagnostic.hasErrors pass.diagnostics = false) {joined : Snapshot}
    (joins : run.upcoming.registerAll [base] = (none, joined)) (generated : List ClassName) :
    Awaits ⟨joined, pass.progress, pass.store, run.diagnostics ++ pass.diagnostics,
      ⟨generated, run.summary.rounds + 1⟩, run.log ++ pass.log⟩ initial link.type.generated
      (base.constructors.map (·.declared)) rest := by
  have moved := reached_upcoming awaits.reached
  obtain ⟨reached, -, written⟩ := moved.of_registerAll joins
  rw [written_upcoming, round_upcoming] at written
  have annotations : ∀ entry ∈ joined.annotations, entry.round = 1 := by
    rw [Snapshot.annotations_registerAll joins, upcoming, Snapshot.annotations_setRound]
    exact awaits.annotations
  constructor
  · exact reached
  · intro entry mem
    show entry ∈ joined.written
    rw [written]
    exact List.mem_append_left _ (awaits.kept entry mem)
  · intro entry mem
    show entry.round ≤ run.summary.rounds + 1 + 1
    have mem : entry ∈ joined.written := mem
    rw [written] at mem
    rcases List.mem_append.mp mem with old | new
    · exact Nat.le_succ_of_le (awaits.past entry old)
    · rw [List.mem_singleton.mp new]
      exact Nat.le_succ _
  · exact annotations
  · refine ⟨(Entry.ofBase base (run.summary.rounds + 1)).written, ?_, named, rfl, rfl⟩
    show _ ∈ joined.written
    rw [written]
    exact List.mem_append_right _ List.mem_cons_self
  · intro type
    have nothingNew := reached.notMem_annotatedIn annotations
      (Nat.lt_add_of_pos_left (Nat.succ_pos run.summary.rounds)) type
    show _ ↔ type ∉ pass.progress.emitted ∧ (type ∈ pass.progress.deferred ∨
      type ∈ (joined.setRound (run.summary.rounds + 1 + 1)).annotatedIn (run.summary.rounds + 1 + 1))
    rw [putOff, done, or_iff_left nothingNew]
    constructor
    · intro waits
      have before := ((awaits.awaited type).mp (List.mem_cons_of_mem _ waits)).1
      exact ⟨fun after => after.elim before fun same => apart (same ▸ waits), waits⟩
    · exact And.right
  · intro other mem
    obtain ⟨unknown, unwritten⟩ := awaits.fresh other (List.mem_cons_of_mem _ mem)
    have different : base.name ≠ other.type.generated := by
      rw [named]
      intro same
      exact (List.nodup_cons.mp nodup).1 (List.mem_map.mpr ⟨other, mem, same.symm⟩)
    constructor
    · show other.type.generated ∉ joined.entryNames
      rw [moved.entryNames_registerAll joins, entryNames_upcoming, List.mem_append, not_or]
      exact ⟨unknown, fun new => different (List.mem_singleton.mp new).symm⟩
    · show other.type.generated ∉ pass.store.files
      rw [stored, MemoryStore.mem_files_withAll_singleton, not_or]
      exact ⟨different, unwritten⟩
  · show Diagnostic.hasErrors (run.diagnostics ++ pass.diagnostics) = false
    rw [Diagnostic.hasErrors, List.any_append, Bool.or_eq_false_iff]
    exact ⟨awaits.clean, quiet⟩

/-- **A round deals with one link.**  Its base class is generated, with forwarding constructors for
those that were waited for, and the rest goes on waiting for that base class. -/
theorem round (awaits : run.Awaits initial superclass constructors (link :: rest))
    (reached : initial.Reached) (linked : initial.Linked superclass (link :: rest))
    (nodup : ((link :: rest).map (·.type.generated)).Nodup) (options : Options) :
    ∃ report base, ∃ run' : Run MemoryStore,
      run.round options MemoryStore.output = (.ok report, run') ∧ report.madeProgress = true ∧
      run'.summary = ⟨run.summary.generated ++ [link.type.generated], run.summary.rounds + 1⟩ ∧
      run'.store.classes[link.type.generated]? = some base ∧
      (∀ name ≠ link.type.generated, run'.store.classes[name]? = run.store.classes[name]?) ∧
      base.constructors =
        constructors.map (forwardConstructor (Validation.delegates (unnamed link.interfaces))) ∧
      run'.Awaits initial link.type.generated (base.constructors.map (·.declared)) rest := by
  have moved := reached_upcoming awaits.reached
  have apart : link.type ∉ rest.map (·.type) := by
    intro again
    obtain ⟨other, mem, same⟩ := List.mem_map.mp again
    refine (List.nodup_cons.mp nodup).1 (List.mem_map.mpr ⟨other, mem, ?_⟩)
    exact congrArg ClassName.generated same
  obtain ⟨pass, base, ran, named, made, written, reported, stored, putOff, done, quiet⟩ :=
    awaits.exists_pass reached linked apart options
  have distinct : (run.upcoming.entryNames ++ [base].map (·.name)).Nodup := by
    refine List.nodup_append.mpr ⟨moved.wellFormed.nodup_entryNames, List.nodup_singleton _, ?_⟩
    intro name old other new same
    have new : other = base.name := List.mem_singleton.mp new
    rw [entryNames_upcoming, same, new, named] at old
    exact (awaits.fresh link List.mem_cons_self).1 old
  obtain ⟨joined, joins⟩ := moved.exists_registerAll distinct
  refine ⟨pass.report, base, _,
    round_eq_ok_iff.mpr ⟨pass, joined, ran, by rw [written]; exact joins, rfl, rfl⟩, ?_, ?_, ?_, ?_,
    made, awaits.advance nodup apart named stored putOff done quiet joins _⟩
  · rw [PassReport.madeProgress, reported]
    rfl
  · rw [reported, named]
  · show pass.store.classes[link.type.generated]? = some base
    rw [stored, MemoryStore.getElem?_classes_withAll_singleton, if_pos named]
  · intro name other
    show pass.store.classes[name]? = run.store.classes[name]?
    rw [stored, MemoryStore.getElem?_classes_withAll_singleton, if_neg]
    rw [named]
    exact other.symm

/-! ## All rounds -/

/-- When no link is left, one more round settles the compilation. -/
theorem settle (awaits : run.Awaits initial superclass constructors []) (options : Options)
    (left : Nat) :
    ∃ final, rounds options MemoryStore.output (left + 1) run =
        (.ok ⟨run.summary.generated, run.summary.rounds + 1⟩, final) ∧
      final.store = run.store ∧ Diagnostic.hasErrors final.diagnostics = false := by
  have idle : Pass.candidates run.progress (run.upcoming.annotatedIn (run.summary.rounds + 1))
      run.upcoming.table = [] := by
    refine List.eq_nil_iff_forall_not_mem.mpr fun decl mem => ?_
    exact List.not_mem_nil (awaits.mem_candidates_iff.mp (List.mem_map_of_mem mem)).2
  have passed : Pass.run options MemoryStore.output run.upcoming.table run.progress
      (run.upcoming.annotatedIn (run.summary.rounds + 1)) run.store =
        (none, Pass.start run.progress run.store) := by
    rw [Pass.run, idle]
    rfl
  obtain ⟨run', ran, snapshot, summary, stored, pending, reported⟩ : ∃ run' : Run MemoryStore,
      run.round options MemoryStore.output = (.ok .empty, run') ∧ run'.snapshot = run.upcoming ∧
      run'.summary = ⟨run.summary.generated ++ [], run.summary.rounds + 1⟩ ∧
      run'.store = run.store ∧ run'.progress.deferred = ∅ ∧
      run'.diagnostics = run.diagnostics ++ [] :=
    ⟨_, round_eq_ok_iff.mpr ⟨_, run.upcoming, passed, rfl, rfl, rfl⟩, rfl, rfl, rfl, rfl, rfl⟩
  have last : run.upcoming.hasLaterRounds = false := by
    rw [← Bool.not_eq_true, Snapshot.hasLaterRounds_iff]
    rintro ⟨entry, mem, later⟩
    rw [written_upcoming] at mem
    rw [round_upcoming] at later
    exact absurd later (Nat.not_lt.mpr (awaits.past entry mem))
  rw [List.append_nil] at summary reported
  refine ⟨run'.finish, ?_, stored, ?_⟩
  · have settled : run'.isSettled .empty = true := by
      rw [isSettled, snapshot, last]
      rfl
    rw [Run.rounds, ran]
    show (if run'.isSettled .empty then _ else _) = _
    rw [if_pos settled, summary]
  · have nobody : undefinedDiagnostics run'.snapshot.table run'.progress = [] := by
      rw [undefinedDiagnostics, pending]
      rfl
    show Diagnostic.hasErrors (run'.diagnostics ++ undefinedDiagnostics _ _) = false
    rw [nobody, List.append_nil, reported]
    exact awaits.clean

/-- **All links are dealt with, one in each round**, and a last round settles the compilation.  The
constructors of every base class take the delegates of the chain up to its link. -/
theorem rounds (awaits : run.Awaits initial superclass constructors rest)
    (reached : initial.Reached) (linked : initial.Linked superclass rest)
    (nodup : (rest.map (·.type.generated)).Nodup) {inherited : List ClassName}
    {originals : List Constructor}
    (prepend : List.Forall₂ (fun original made => made.Prepends inherited original) originals
      constructors)
    (options : Options) {left : Nat} (enough : rest.length < left) :
    ∃ final, Run.rounds options MemoryStore.output left run =
        (.ok ⟨run.summary.generated ++ rest.map (·.type.generated),
          run.summary.rounds + rest.length + 1⟩, final) ∧
      Diagnostic.hasErrors final.diagnostics = false ∧
      (∀ name ∉ rest.map (·.type.generated),
        final.store.classes[name]? = run.store.classes[name]?) ∧
      ∀ earlier link later, rest = earlier ++ link :: later →
        ∃ base, final.store.classes[link.type.generated]? = some base ∧
          List.Forall₂ (fun original made => made.Forwards link.interfaces
            (earlier.reverse.flatMap (·.interfaces) ++ inherited) original)
            originals base.constructors := by
  induction rest generalizing run superclass constructors inherited left with
  | nil =>
      obtain ⟨left, rfl⟩ := Nat.exists_eq_add_one_of_ne_zero (Nat.ne_of_gt enough)
      obtain ⟨final, ran, stored, clean⟩ := awaits.settle options left
      refine ⟨final, ?_, clean, fun name _ => by rw [stored], ?_⟩
      · rw [ran, List.map_nil, List.append_nil]
        rfl
      · intro earlier link later split
        exact absurd split.symm (List.append_ne_nil_of_right_ne_nil _ (List.cons_ne_nil _ _))
  | cons link rest ih =>
      obtain ⟨left, rfl⟩ :=
        Nat.exists_eq_add_one_of_ne_zero (Nat.ne_of_gt (Nat.zero_lt_of_lt enough))
      obtain ⟨report, base, run', ran, progress, summary, stored, others, made, next⟩ :=
        awaits.round reached linked nodup options
      have forwards : List.Forall₂ (fun original made => made.Forwards link.interfaces inherited
          original) originals base.constructors := by
        rw [made, List.forall₂_map_right_iff]
        exact prepend.imp fun _ _ prepends => forwards_unnamed link.interfaces prepends
      have prepend' : List.Forall₂ (fun original made => made.Prepends
          (link.interfaces ++ inherited) original) originals
          (base.constructors.map (·.declared)) := by
        rw [List.forall₂_map_right_iff]
        exact forwards.imp fun _ _ forwards => forwards.takes
      obtain ⟨different, nodupRest⟩ := List.nodup_cons.mp nodup
      cases linked with
      | cons first more =>
          obtain ⟨final, ranRest, clean, kept, bases⟩ :=
            ih next more nodupRest prepend' (Nat.lt_of_succ_lt_succ enough)
          refine ⟨final, ?_, clean, ?_, ?_⟩
          · have goesOn : run'.isSettled report = false := by
              rw [isSettled, progress]
              rfl
            rw [Run.rounds, ran]
            show (if run'.isSettled report then _ else Run.rounds _ _ _ run') = _
            rw [goesOn, if_neg Bool.false_ne_true, ranRest, summary, List.append_assoc,
              List.length_cons, Nat.add_right_comm _ 1]
            rfl
          · intro name other
            rw [List.map_cons, List.mem_cons, not_or] at other
            rw [kept name other.2, others name other.1]
          · intro earlier chosen later split
            cases earlier with
            | nil =>
                cases split
                exact ⟨base, (kept _ different).trans stored, forwards⟩
            | cons head earlier =>
                cases split
                obtain ⟨base, found, forwards⟩ := bases earlier chosen later rfl
                refine ⟨base, found, ?_⟩
                rwa [List.reverse_cons, List.flatMap_append, List.flatMap_singleton,
                  List.append_assoc]

end Awaits

end Run

namespace Compilation

/-- **A chain of base classes is generated link by link.**  The compilation of a chain ends well and
without errors, with a round for each link and one more, if that many are allowed.  The base classes
come in the order of the chain.  The constructors of each of them are those of the declared class that
the chain starts from, in order: they take the delegates of the class, then those of the link before
it and so on back to the first, and then what the declared constructor takes; they throw the same and
take any number of arguments where the declared constructor does; no two parameters have one name; and
all but the delegates of the class itself are passed on. -/
theorem chain_generated {snapshot : Snapshot} (reached : snapshot.Reached) (config : Options)
    {superclass : TypeDecl} {links : List Link} (chain : snapshot.Chain superclass links)
    (enough : links.length + 1 ≤ config.maxRounds) :
    let result := run ⟨snapshot, config⟩ MemoryStore.output .empty
    result.outcome = .ok ⟨links.map (·.type.generated), links.length + 1⟩ ∧
    Diagnostic.hasErrors result.diagnostics = false ∧
    ∀ earlier link later, links = earlier ++ link :: later →
      ∃ base, result.store.classes[link.type.generated]? = some base ∧
        List.Forall₂ (fun original made =>
          made.Forwards link.interfaces (earlier.reverse.flatMap (·.interfaces)) original)
          superclass.constructors base.constructors := by
  have awaits := Run.awaits_start reached chain
  have prepend : List.Forall₂ (fun original made => made.Prepends [] original)
      superclass.constructors superclass.constructors :=
    List.forall₂_same.mpr fun _ _ => ⟨rfl, rfl, rfl⟩
  obtain ⟨final, ran, clean, -, bases⟩ := awaits.rounds reached chain.linked chain.unshared prepend
    config (Nat.lt_of_succ_le enough)
  have ranAll : lastRun ⟨snapshot, config⟩ MemoryStore.output .empty =
      (.ok ⟨links.map (·.type.generated), links.length + 1⟩, final) := by
    show Run.rounds config MemoryStore.output config.maxRounds _ = _
    rw [ran]
    show (Except.ok (⟨[] ++ links.map (·.type.generated), 0 + links.length + 1⟩ : Summary), final) = _
    rw [List.nil_append, Nat.zero_add]
  intro result
  have left : result = _ := run_eq ranAll
  rw [left]
  refine ⟨rfl, clean, fun earlier link later split => ?_⟩
  obtain ⟨base, found, forwards⟩ := bases earlier link later split
  rw [List.append_nil] at forwards
  exact ⟨base, found, forwards⟩

/-- Three classes that form a chain, declared against its order.  Some parameters of the declared
class that it starts from are named like the delegates, and an interface occurs twice. -/
def chainOfThree : List TypeDefinition :=
  [{ name := "foo.Base", kind := .class_
     constructors :=
      [{ parameters := [⟨"__I_unlikelyToConflictWithExistingMember", "int"⟩, ⟨"rest", "long[]"⟩]
         varargs := true, throws := ["foo.Failure"] }, {}] },
   { name := "foo.I", kind := .interface, interfaces := ["foo.J"] },
   { name := "foo.J", kind := .interface },
   { name := "foo.C", kind := .class_, extends? := some "foo.AutoDelegate_C"
     request? := some ⟨[⟨"foo.I", none⟩], some "bar.AutoDelegate_B"⟩ },
   { name := "bar.B", kind := .class_, extends? := some "bar.AutoDelegate_B"
     request? := some ⟨[⟨"foo.J", none⟩, ⟨"foo.I", none⟩], some "foo.AutoDelegate_A"⟩ },
   { name := "foo.A", kind := .class_, extends? := some "foo.AutoDelegate_A"
     request? := some ⟨[⟨"foo.I", none⟩], some "foo.Base"⟩ }]

/-- The links of the chain, from the one that extends the declared class. -/
def linksOfThree : List Link :=
  [⟨⟨"foo", "A", []⟩, [⟨"foo", "I", []⟩]⟩,
   ⟨⟨"bar", "B", []⟩, [⟨"foo", "J", []⟩, ⟨"foo", "I", []⟩]⟩,
   ⟨⟨"foo", "C", []⟩, [⟨"foo", "I", []⟩]⟩]

/-- The three classes form a chain. -/
theorem chain_chainOfThree :
    let snapshot := Snapshot.sample chainOfThree
    snapshot.Reached ∧
      snapshot.Chain ((snapshot.lookup ⟨"foo", "Base", []⟩).getD default) linksOfThree := by
  intro snapshot
  have reached : snapshot.Reached := .read (Snapshot.ofTypes_sample (by decide +kernel))
  have denotes : ∀ interface ∈ linksOfThree.flatMap (·.interfaces),
      snapshot.table.Denotes ⟨interface.qualified, none⟩ interface := by
    have computed : ∀ interface ∈ linksOfThree.flatMap (·.interfaces),
        TypeName.classNamed? interface.qualified = some interface ∧
          (delegateDecl snapshot.table ⟨interface, ""⟩).toOption.isSome := by decide +kernel
    intro interface mem
    obtain ⟨names, ok⟩ := computed interface mem
    exact (SymbolTable.denotes_iff reached.wellFormed.lawful "").mpr
      ⟨rfl, names, exists_of_isSome ok⟩
  have hasLink : ∀ superclass link, (superclass, link) ∈ [⟨"foo", "Base", []⟩,
      ⟨"foo", "AutoDelegate_A", []⟩, ⟨"bar", "AutoDelegate_B", []⟩].zip linksOfThree →
      snapshot.HasLink superclass link := by
    intro superclass link mem
    have plain : ∀ link ∈ linksOfThree, link.type.nested = [] ∧ link.interfaces.Nodup := by decide
    have written : ∀ pair ∈ [⟨"foo", "Base", []⟩, ⟨"foo", "AutoDelegate_A", []⟩,
        ⟨"bar", "AutoDelegate_B", []⟩].zip linksOfThree, ∃ entry ∈ snapshot.written,
        entry.name = pair.2.type ∧ entry.decl.kind = .class_ ∧
        entry.extends?.bind ClassName.ofDotted? = some pair.2.type.generated ∧
        entry.decl.request.superclass? = some pair.1 ∧
        entry.decl.request.delegates = pair.2.interfaces.map (⟨·.qualified, none⟩) := by
      decide +kernel
    have listed : link ∈ linksOfThree := (List.of_mem_zip mem).2
    obtain ⟨topLevel, distinct⟩ := plain link listed
    obtain ⟨entry, here, named, isClass, clause, wanted, asked⟩ := written _ mem
    refine ⟨topLevel, distinct, entry, here, named, isClass, clause, wanted, ?_⟩
    rw [asked, List.forall₂_map_left_iff, List.forall₂_same]
    exact fun interface mem => denotes interface (List.mem_flatMap.mpr ⟨link, listed, mem⟩)
  refine ⟨reached, ?_⟩
  constructor
  · decide +kernel
  · decide +kernel
  · decide +kernel
  · decide +kernel
  · have named : ((snapshot.lookup ⟨"foo", "Base", []⟩).getD default).name =
        ⟨"foo", "Base", []⟩ := by decide +kernel
    rw [named]
    exact .cons (hasLink _ _ (by decide)) (.cons (hasLink _ _ (by decide))
      (.cons (hasLink _ _ (by decide)) (.nil _)))
  · decide +kernel
  · decide +kernel

/-- Their compilation takes four rounds, and the constructors of the last base class take the
delegates of all three. -/
theorem chain_generated_chainOfThree :
    let snapshot := Snapshot.sample chainOfThree
    let result := run ⟨snapshot, .standard⟩ MemoryStore.output .empty
    let superclass := (snapshot.lookup ⟨"foo", "Base", []⟩).getD default
    snapshot.Reached ∧ snapshot.Chain superclass linksOfThree ∧
    linksOfThree.length + 1 ≤ Options.standard.maxRounds ∧
    result.outcome = .ok ⟨[⟨"foo", "AutoDelegate_A", []⟩, ⟨"bar", "AutoDelegate_B", []⟩,
      ⟨"foo", "AutoDelegate_C", []⟩], 4⟩ ∧
    Diagnostic.hasErrors result.diagnostics = false ∧ superclass.constructors.length = 2 ∧
    ∃ base, result.store.classes[(⟨"foo", "AutoDelegate_C", []⟩ : ClassName)]? = some base ∧
      List.Forall₂ (fun original made => made.Forwards [⟨"foo", "I", []⟩]
        [⟨"foo", "J", []⟩, ⟨"foo", "I", []⟩, ⟨"foo", "I", []⟩] original)
        superclass.constructors base.constructors := by
  obtain ⟨reached, chain⟩ := chain_chainOfThree
  obtain ⟨finished, clean, bases⟩ := chain_generated reached .standard chain (by decide)
  exact ⟨reached, chain, by decide, finished, clean, by decide +kernel,
    bases (linksOfThree.take 2) ⟨⟨"foo", "C", []⟩, [⟨"foo", "I", []⟩]⟩ [] rfl⟩

end Compilation

end Delegation
