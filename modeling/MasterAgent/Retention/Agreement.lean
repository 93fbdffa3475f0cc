import MasterAgent.Retention.Pairs

/-!
# Where purge and repair agree

Purge checks the whole schema of a sidecar, its name, its dates and its device. Repair checks
that the sidecar names a file of its directory and that the digest fits.

Results:

1. `planRetainedPairs_ok`: the plan has the valid pairs, and an error for every other sidecar;
2. `mem_orphans`: the files a repair quarantines;
3. `agree_iff`: when the two agree;
4. `partial_sidecar_blocks`: a sidecar that purge refuses and repair leaves in place.
-/

namespace MasterAgent.Retention
open Base

/-- `str.casefold` leaves the characters of the sidecar suffix as they are. -/
structure FoldsSuffix [Host] : Prop where
  same : ∀ c ∈ ".retention.json".toList, Host.foldChar c = [c]

theorem FoldsSuffix.endsWith [Host] (folds : FoldsSuffix) {name : String}
    (suffixed : Retention.endsWith name ".retention.json" = true) :
    Retention.endsWith (casefold name) ".retention.json" = true := by
  unfold Retention.endsWith at suffixed ⊢
  rw [List.isSuffixOf_iff_suffix] at suffixed ⊢
  obtain ⟨stem, whole⟩ := suffixed
  have kept : ∀ cs : List Char, (∀ c ∈ cs, Host.foldChar c = [c]) → cs.flatMap Host.foldChar = cs := by
    intro cs same
    induction cs with
    | nil => rfl
    | cons c cs ih =>
      rw [List.flatMap_cons, same c List.mem_cons_self,
        ih fun d member => same d (List.mem_cons_of_mem c member)]
      rfl
  have folded : (casefold name).toList = name.toList.flatMap Host.foldChar := String.toList_ofList
  rw [folded, ← whole, List.flatMap_append, kept _ folds.same]
  exact List.suffix_append _ _

namespace ScannedTree

section
variable [Host] [JsonDecoder] (tree : ScannedTree)

/-! ## What the two checks ask of a sidecar -/

/-- The sidecar reads as a mapping that names a file of its directory. -/
structure Names (sidecar evidence : RetainedFileRecord) (raw : Fields) : Prop where
  reads : tree.readManifest sidecar = .ok raw
  sibling : isSiblingName (getStr (.obj raw) "evidence_path" "") = true
  found : tree.byRelative (sidecar.parent ++ [getStr (.obj raw) "evidence_path" ""]) = some evidence

/-- … and the digest fits the file. -/
def Matches (sidecar evidence : RetainedFileRecord) : Prop :=
  ∃ raw, tree.Names sidecar evidence raw ∧ tree.verifyRetainedRecord evidence raw = .ok ()

/-- … and the digest does not fit the file. -/
def Mismatches (sidecar evidence : RetainedFileRecord) : Prop :=
  ∃ raw, tree.Names sidecar evidence raw ∧ tree.verifyRetainedRecord evidence raw ≠ .ok ()

/-- A pair that also passes the manifest schema, on the device of the root. -/
def Valid (sidecar evidence : RetainedFileRecord) : Prop :=
  sidecar.device = tree.rootDevice ∧ evidence.device = tree.rootDevice ∧
    ∃ raw, tree.Names sidecar evidence raw ∧ tree.verifyRetainedRecord evidence raw = .ok () ∧
      ∃ named, validateRetentionManifest raw sidecar.name = .ok named

end

/-! ## Records -/

variable {tree : ScannedTree}

theorem eq_of_parts {a b : RetainedFileRecord} (ha : a ∈ tree.records) (hb : b ∈ tree.records)
    (same : a.relativeParts = b.relativeParts) : a = b :=
  List.inj_on_of_nodup_map tree.distinct ha hb same

theorem mem_of_byRelative {parts : Parts} {record : RetainedFileRecord}
    (found : tree.byRelative parts = some record) :
    record ∈ tree.records ∧ record.relativeParts = parts :=
  ⟨List.mem_of_find?_eq_some found, by simpa using List.find?_some found⟩

theorem parent_name {record : RetainedFileRecord} (member : record ∈ tree.records) :
    record.relativeParts = record.parent ++ [record.name] := by
  have nonempty := tree.named record member
  unfold RetainedFileRecord.parent RetainedFileRecord.name
  rw [List.getLastD_eq_getLast?, List.getLast?_eq_getLast_of_ne_nil nonempty]
  exact (List.dropLast_append_getLast nonempty).symm

theorem mem_sidecars {record : RetainedFileRecord} :
    record ∈ tree.sidecars ↔ record ∈ tree.records ∧ record.isSidecar = true := by
  unfold sidecars
  rw [List.mem_insertionSort, List.mem_filter]

/-! ## Exceptions -/

theorem demand_ok {holds : Bool} {raised : Exn} {result : Unit}
    (passes : demand holds raised = .ok result) : holds = true := by
  unfold demand at passes
  split at passes
  · assumption
  · cases passes

theorem demand_error {holds : Bool} {raised raised' : Exn}
    (fails : demand holds raised = .error raised') : raised' = raised := by
  unfold demand at fails
  split at fails <;> cases fails
  rfl

theorem requireEvidence_eq {parts : Parts} {evidence : RetainedFileRecord} :
    tree.requireEvidence parts = .ok evidence ↔ tree.byRelative parts = some evidence := by
  unfold requireEvidence
  cases tree.byRelative parts <;> simp

theorem of_bind_error {A B : Type} {first : Except Exn A} {next : A → Except Exn B} {raised : Exn}
    (fails : first >>= next = .error raised) :
    first = .error raised ∨ ∃ value, first = .ok value ∧ next value = .error raised := by
  cases first with
  | error e =>
    cases fails
    exact .inl rfl
  | ok value => exact .inr ⟨value, rfl, fails⟩

theorem catching_error {A : Type} {raised : Exn} (handled : caught raised = true) :
    catching (.error raised : Except Exn A) = .ok (.error raised) := by
  simp [catching, handled]

theorem caught_of_readText {record : RetainedFileRecord} {raised : Exn}
    (fails : tree.readText record = .error raised) : caught raised = true := by
  unfold readText at fails
  split at fails
  · cases fails
    rfl
  · split at fails <;> cases fails
    rfl

section
variable [Host] [JsonDecoder]

theorem Names.evidence {sidecar evidence : RetainedFileRecord} {raw : Fields}
    (names : tree.Names sidecar evidence raw) : evidence ∈ tree.records :=
  (mem_of_byRelative names.found).1

theorem Names.unique {sidecar evidence evidence' : RetainedFileRecord} {raw raw' : Fields}
    (names : tree.Names sidecar evidence raw) (names' : tree.Names sidecar evidence' raw') :
    evidence = evidence' ∧ raw = raw' := by
  obtain rfl := Except.ok.inj (names.reads.symm.trans names'.reads)
  exact ⟨Option.some.inj (names.found.symm.trans names'.found), rfl⟩

omit [Host] in
theorem caught_of_readManifest {sidecar : RetainedFileRecord} {raised : Exn}
    (fails : tree.readManifest sidecar = .error raised) : caught raised = true := by
  unfold readManifest at fails
  cases text : tree.readText sidecar with
  | error e =>
    rw [text] at fails
    cases fails
    exact caught_of_readText text
  | ok text' =>
    rw [text] at fails
    dsimp only [ok_bind] at fails
    split at fails <;> cases fails <;> rfl

theorem caught_of_verify {record : RetainedFileRecord} {manifest : Fields} {raised : Exn}
    (fails : tree.verifyRetainedRecord record manifest = .error raised) : caught raised = true := by
  unfold verifyRetainedRecord at fails
  cases expected : expectedDigest manifest with
  | error e =>
    rw [expected] at fails
    cases fails
    unfold expectedDigest checkDigest at expected
    split at expected
    · split at expected <;> cases expected
      rfl
    · cases expected
      rfl
  | ok digest =>
    cases text : tree.readText record with
    | error e =>
      rw [expected, text] at fails
      cases fails
      exact caught_of_readText text
    | ok text' =>
      rw [expected, text] at fails
      dsimp only [ok_bind] at fails
      split at fails
      · cases fails
      · split at fails
        · cases fails
          rfl
        · split at fails <;> cases fails
          rfl

/-! ## One sidecar -/

/-- What a repair finds about a sidecar. -/
theorem inspect_cases {sidecar : RetainedFileRecord} (regular : sidecar.isSymlink = false) :
    (∃ finding, catching (tree.inspectSidecar sidecar) = .ok finding ∧
      (finding = .ok .alone ∨ ∃ raised, finding = .error raised) ∧
      ∀ evidence raw, ¬tree.Names sidecar evidence raw) ∨
    ∃ evidence raw, tree.Names sidecar evidence raw ∧
      (tree.verifyRetainedRecord evidence raw = .ok () ∧
          catching (tree.inspectSidecar sidecar) = .ok (.ok (.paired evidence)) ∨
        tree.verifyRetainedRecord evidence raw ≠ .ok () ∧
          catching (tree.inspectSidecar sidecar) = .ok (.ok (.mismatch evidence))) := by
  unfold inspectSidecar
  rw [regular]
  cases reads : tree.readManifest sidecar with
  | error raised =>
    refine .inl ⟨.error raised, ?_, .inr ⟨raised, rfl⟩, fun evidence raw names => ?_⟩
    · exact catching_error (caught_of_readManifest reads)
    · exact absurd (reads.symm.trans names.reads) nofun
  | ok raw =>
    have same {evidence : RetainedFileRecord} {raw' : Fields}
        (names : tree.Names sidecar evidence raw') : raw' = raw :=
      (Except.ok.inj (reads.symm.trans names.reads)).symm
    by_cases sibling : isSiblingName (getStr (.obj raw) "evidence_path" "") = true
    · cases found : tree.byRelative (sidecar.parent ++ [getStr (.obj raw) "evidence_path" ""]) with
      | none =>
        refine .inl ⟨.ok .alone, ?_, .inl rfl, fun evidence raw' names => ?_⟩
        · simp only [Bool.false_eq_true, if_false, ok_bind, sibling, Bool.not_true, found]
          rfl
        · cases same names
          exact absurd (found.symm.trans names.found) nofun
      | some evidence =>
        have plain := tree.regular evidence (mem_of_byRelative found).1
        refine .inr ⟨evidence, raw, ⟨reads, sibling, found⟩, ?_⟩
        simp only [Bool.false_eq_true, if_false, ok_bind, sibling, Bool.not_true, found, plain]
        cases verified : tree.verifyRetainedRecord evidence raw with
        | ok => exact .inl ⟨rfl, rfl⟩
        | error raised =>
          refine .inr ⟨nofun, ?_⟩
          rw [catching_error (caught_of_verify verified)]
          rfl
    · refine .inl ⟨.error (valueError "retention evidence_path must be a sibling filename"), ?_,
        .inr ⟨_, rfl⟩, fun evidence raw' names => ?_⟩
      · simp only [Bool.false_eq_true, if_false, ok_bind, sibling, Bool.not_false, if_true]
        rfl
      · cases same names
        exact sibling names.sibling

omit [JsonDecoder] in
theorem validate_named {raw : Fields} {sidecar evidenceName : String} {expiresAt : Int}
    (valid : validateRetentionManifest raw sidecar = .ok (evidenceName, expiresAt)) :
    getStr (.obj raw) "evidence_path" "" = evidenceName ∧ isSiblingName evidenceName = true ∧
      isReservedRetainedEvidenceName evidenceName = false ∧ sidecar = sidecarName evidenceName := by
  unfold validateRetentionManifest at valid
  obtain ⟨_, -, valid⟩ := of_bind_ok valid
  obtain ⟨path, got, valid⟩ := of_bind_ok valid
  obtain ⟨name, named, valid⟩ := of_bind_ok valid
  have same : name = evidenceName := by
    iterate 15 obtain ⟨_, -, valid⟩ := of_bind_ok valid
    exact (Prod.mk.inj (Except.ok.inj valid)).1
  subst same
  unfold checkEvidencePath at named
  split at named
  case h_2 => cases named
  case h_1 text =>
    split at named
    case isFalse => cases named
    case isTrue fits =>
      cases named
      have stored : (Json.obj raw).get? "evidence_path" = some (.str name) := by
        unfold item at got
        split at got
        · rename_i value found
          rw [found, Except.ok.inj got]
        · cases got
      simp only [Bool.and_eq_true, Bool.not_eq_true', beq_iff_eq] at fits
      refine ⟨?_, fits.1.1, fits.1.2, fits.2⟩
      rw [getStr, stored]
      rfl

/-- A planned pair is a valid one. -/
theorem valid_of_planPair {paired : List Parts} {sidecar : RetainedFileRecord}
    {pair : RetainedEvidencePair} (planned : tree.planPair paired sidecar = .ok pair) :
    pair.sidecar = sidecar ∧ tree.Valid sidecar pair.evidence := by
  obtain ⟨_, onDevice, planned⟩ := of_bind_ok planned
  obtain ⟨raw, reads, planned⟩ := of_bind_ok planned
  obtain ⟨⟨evidenceName, expiresAt⟩, valid, planned⟩ := of_bind_ok planned
  obtain ⟨evidence, found, planned⟩ := of_bind_ok planned
  obtain ⟨_, there, planned⟩ := of_bind_ok planned
  obtain ⟨_, -, planned⟩ := of_bind_ok planned
  obtain ⟨_, verified, planned⟩ := of_bind_ok planned
  cases planned
  obtain ⟨named, sibling, -, -⟩ := validate_named valid
  refine ⟨rfl, by simpa using demand_ok onDevice, by simpa using demand_ok there, raw, ?_, verified,
    _, valid⟩
  exact ⟨reads, named ▸ sibling, named ▸ requireEvidence_eq.mp found⟩

/-- A valid pair is planned, unless its evidence has a pair already. -/
theorem planPair_of_valid {paired : List Parts} {sidecar evidence : RetainedFileRecord}
    (valid : tree.Valid sidecar evidence) (free : evidence.relativeParts ∉ paired) :
    ∃ expiresAt, tree.planPair paired sidecar = .ok ⟨evidence, sidecar, expiresAt⟩ := by
  obtain ⟨onDevice, there, raw, names, verified, ⟨evidenceName, expiresAt⟩, accepted⟩ := valid
  obtain ⟨named, -, -, -⟩ := validate_named accepted
  have found := requireEvidence_eq.mpr names.found
  rw [named] at found
  have unpaired : paired.contains evidence.relativeParts = false := by simpa using free
  refine ⟨expiresAt, ?_⟩
  simp only [planPair, onDevice, there, names.reads, accepted, found, unpaired, verified, demand,
    beq_self_eq_true, Bool.not_false, if_true, ok_bind]
  rfl

/-- What the manifest check raises of a sidecar, the loop of the plan catches. -/
def Settled (tree : ScannedTree) (sidecar : RetainedFileRecord) : Prop :=
  sidecar.device = tree.rootDevice → ∀ raw, tree.readManifest sidecar = .ok raw → ∀ raised,
    validateRetentionManifest raw sidecar.name = .error raised → caught raised = true

theorem caught_of_planPair {paired : List Parts} {sidecar : RetainedFileRecord}
    (settled : Settled tree sidecar) {raised : Exn}
    (fails : tree.planPair paired sidecar = .error raised) : caught raised = true := by
  rcases of_bind_error fails with device | ⟨_, onDevice, fails⟩
  · cases demand_error device
    rfl
  rcases of_bind_error fails with unread | ⟨raw, reads, fails⟩
  · exact caught_of_readManifest unread
  rcases of_bind_error fails with invalid | ⟨⟨evidenceName, expiresAt⟩, -, fails⟩
  · exact settled (by simpa using demand_ok onDevice) raw reads raised invalid
  rcases of_bind_error fails with missing | ⟨evidence, -, fails⟩
  · unfold requireEvidence at missing
    split at missing <;> cases missing
    rfl
  rcases of_bind_error fails with device | ⟨_, -, fails⟩
  · cases demand_error device
    rfl
  rcases of_bind_error fails with conflict | ⟨_, -, fails⟩
  · cases demand_error conflict
    rfl
  rcases of_bind_error fails with mismatch | ⟨_, -, fails⟩
  · exact caught_of_verify mismatch
  · cases fails

/-- What the loop does not catch ends it. -/
theorem planPair_of_unsettled {sidecar : RetainedFileRecord} (unsettled : ¬Settled tree sidecar)
    (paired : List Parts) :
    ∃ raised, tree.planPair paired sidecar = .error raised ∧ caught raised = false := by
  unfold Settled at unsettled
  push Not at unsettled
  obtain ⟨onDevice, raw, reads, raised, invalid, uncaught⟩ := unsettled
  refine ⟨raised, ?_, by simpa using uncaught⟩
  simp only [planPair, onDevice, reads, invalid, demand, beq_self_eq_true, if_true, ok_bind]
  rfl

/-- The name of a sidecar determines its evidence, and the other way round. -/
theorem Valid.sidecar_eq {sidecar sidecar' evidence evidence' : RetainedFileRecord}
    (valid : tree.Valid sidecar evidence) (valid' : tree.Valid sidecar' evidence')
    (member : sidecar ∈ tree.records) (member' : sidecar' ∈ tree.records)
    (same : evidence.relativeParts = evidence'.relativeParts) : sidecar = sidecar' := by
  obtain ⟨-, -, raw, names, -, ⟨name, expiresAt⟩, accepted⟩ := valid
  obtain ⟨-, -, raw', names', -, ⟨name', expiresAt'⟩, accepted'⟩ := valid'
  obtain ⟨named, -, -, suffixed⟩ := validate_named accepted
  obtain ⟨named', -, -, suffixed'⟩ := validate_named accepted'
  have parts := (mem_of_byRelative names.found).2
  have parts' := (mem_of_byRelative names'.found).2
  rw [named] at parts
  rw [named'] at parts'
  have together : sidecar.parent ++ [name] = sidecar'.parent ++ [name'] := by
    rw [← parts, ← parts', same]
  obtain ⟨parents, names⟩ := List.append_inj' together rfl
  refine eq_of_parts member member' ?_
  rw [parent_name member, parent_name member', parents, suffixed, suffixed',
    (List.cons.inj names).1]

/-- A pair of the plan for these two files. -/
def Plan.Has (plan : Plan) (sidecar evidence : RetainedFileRecord) : Prop :=
  ∃ pair ∈ plan.pairs, pair.sidecar = sidecar ∧ pair.evidence = evidence

/-- The loop of the plan: a pair for each valid sidecar, an error for each other one. -/
theorem planPairs_ok {rest : List RetainedFileRecord} {plan : Plan} (distinct : rest.Nodup)
    (members : ∀ sidecar ∈ rest, sidecar ∈ tree.records)
    (settled : ∀ sidecar ∈ rest, Settled tree sidecar)
    (held : ∀ pair ∈ plan.pairs, pair.sidecar ∈ tree.records ∧ pair.sidecar ∉ rest ∧
      tree.Valid pair.sidecar pair.evidence) :
    ∃ plan', tree.planPairs rest plan = .ok plan' ∧
      (∀ sidecar evidence, plan'.Has sidecar evidence ↔
        plan.Has sidecar evidence ∨ sidecar ∈ rest ∧ tree.Valid sidecar evidence) ∧
      (plan'.errors = [] ↔ plan.errors = [] ∧
        ∀ sidecar ∈ rest, ∃ evidence, tree.Valid sidecar evidence) := by
  induction rest generalizing plan with
  | nil => exact ⟨plan, rfl, by simp, by simp⟩
  | cons first rest ih =>
    obtain ⟨fresh, distinct⟩ := List.nodup_cons.mp distinct
    have now := members first List.mem_cons_self
    have later := fun sidecar member => members sidecar (List.mem_cons_of_mem first member)
    have settledLater :=
      fun sidecar member => settled sidecar (List.mem_cons_of_mem first member)
    have heldLater : ∀ pair ∈ plan.pairs, pair.sidecar ∈ tree.records ∧ pair.sidecar ∉ rest ∧
        tree.Valid pair.sidecar pair.evidence := fun pair member =>
      ⟨(held pair member).1, fun inside => (held pair member).2.1 (List.mem_cons_of_mem _ inside),
        (held pair member).2.2⟩
    rw [planPairs]
    cases planned : tree.planPair (plan.pairs.map (·.evidence.relativeParts)) first with
    | ok pair =>
      obtain ⟨named, valid⟩ := valid_of_planPair planned
      have heldNext : ∀ pair' ∈ plan.pairs ++ [pair], pair'.sidecar ∈ tree.records ∧
          pair'.sidecar ∉ rest ∧ tree.Valid pair'.sidecar pair'.evidence := by
        intro pair' member
        rcases List.mem_append.mp member with old | new
        · exact heldLater pair' old
        · rw [List.mem_singleton.mp new, named]
          exact ⟨now, fresh, valid⟩
      obtain ⟨plan', runs, pairs, errors⟩ := @ih { plan with pairs := plan.pairs ++ [pair] }
        distinct later settledLater heldNext
      refine ⟨plan', runs, fun sidecar evidence => ?_, ?_⟩
      · rw [pairs]
        constructor
        · rintro (⟨pair', member, rfl, rfl⟩ | ⟨member, fits⟩)
          · rcases List.mem_append.mp member with old | new
            · exact .inl ⟨pair', old, rfl, rfl⟩
            · rw [List.mem_singleton.mp new, named]
              exact .inr ⟨List.mem_cons_self, valid⟩
          · exact .inr ⟨List.mem_cons_of_mem _ member, fits⟩
        · rintro (⟨pair', member, rfl, rfl⟩ | ⟨member, fits⟩)
          · exact .inl ⟨pair', List.mem_append_left _ member, rfl, rfl⟩
          · rcases List.mem_cons.mp member with rfl | inside
            · obtain ⟨_, names, _⟩ := valid.2.2
              obtain ⟨_, names', _⟩ := fits.2.2
              exact .inl ⟨pair, List.mem_append_right _ (List.mem_singleton.mpr rfl), named,
                (names.unique names').1⟩
            · exact .inr ⟨inside, fits⟩
      · rw [errors]
        refine and_congr_right fun _ => ?_
        simp only [List.mem_cons, forall_eq_or_imp]
        exact ⟨fun all => ⟨⟨_, valid⟩, all⟩, And.right⟩
    | error raised =>
      have handled := caught_of_planPair (settled first List.mem_cons_self) planned
      have invalid : ∀ evidence, ¬tree.Valid first evidence := by
        intro evidence valid
        have free : evidence.relativeParts ∉ plan.pairs.map (·.evidence.relativeParts) := by
          intro taken
          obtain ⟨pair, member, same⟩ := List.mem_map.mp taken
          obtain ⟨inTree, unseen, fits⟩ := held pair member
          have again := fits.sidecar_eq valid inTree now same
          exact unseen (again ▸ List.mem_cons_self)
        obtain ⟨expiresAt, planned'⟩ := planPair_of_valid valid free
        exact absurd (planned.symm.trans planned') nofun
      rw [catching_error handled]
      obtain ⟨plan', runs, pairs, errors⟩ := @ih { plan with errors := plan.errors ++
        [display first.relativeParts ++ ": invalid retained pair: " ++ raised.className] }
        distinct later settledLater heldLater
      refine ⟨plan', runs, fun sidecar evidence => ?_, ?_⟩
      · rw [pairs]
        refine or_congr Iff.rfl ⟨fun ⟨member, fits⟩ => ⟨List.mem_cons_of_mem _ member, fits⟩, ?_⟩
        rintro ⟨member, fits⟩
        rcases List.mem_cons.mp member with rfl | inside
        · exact absurd fits (invalid evidence)
        · exact ⟨inside, fits⟩
      · rw [errors]
        constructor
        · rintro ⟨none, -⟩
          exact absurd none (by simp)
        · rintro ⟨-, all⟩
          obtain ⟨evidence, valid⟩ := all first List.mem_cons_self
          exact absurd valid (invalid evidence)

theorem planPairs_raises {rest : List RetainedFileRecord} {plan : Plan}
    {sidecar : RetainedFileRecord} (member : sidecar ∈ rest) (unsettled : ¬Settled tree sidecar) :
    ∃ raised, tree.planPairs rest plan = .error raised := by
  induction rest generalizing plan with
  | nil => exact absurd member List.not_mem_nil
  | cons first rest ih =>
    rw [planPairs]
    rcases List.mem_cons.mp member with rfl | inside
    · obtain ⟨raised, fails, uncaught⟩ := planPair_of_unsettled unsettled
        (plan.pairs.map (·.evidence.relativeParts))
      rw [fails]
      exact ⟨raised, by simp [catching, uncaught, bind, Except.bind]⟩
    · cases outcome : catching (tree.planPair (plan.pairs.map (·.evidence.relativeParts)) first) with
      | error raised => exact ⟨raised, rfl⟩
      | ok tried =>
        cases tried with
        | ok pair => exact ih inside
        | error raised => exact ih inside

/-! ## The files a repair quarantines -/

/-- A sidecar without matching evidence is an orphan, and so is what a sidecar names in vain. -/
def OrphanedBy (tree : ScannedTree) (sidecar : RetainedFileRecord) (parts : Parts) : Prop :=
  (parts = sidecar.relativeParts ∧ ∀ evidence, ¬tree.Matches sidecar evidence) ∨
    ∃ evidence, tree.Mismatches sidecar evidence ∧ parts = evidence.relativeParts

/-- The loop of the classification. -/
theorem inspectSidecars_ok {rest : List RetainedFileRecord} {found : Orphans}
    (regular : ∀ sidecar ∈ rest, sidecar.isSymlink = false) :
    ∃ found', tree.inspectSidecars rest found = .ok found' ∧
      (∀ parts, parts ∈ found'.orphaned ↔
        parts ∈ found.orphaned ∨ ∃ sidecar ∈ rest, OrphanedBy tree sidecar parts) ∧
      ∀ parts, parts ∈ found'.pairedEvidence ↔ parts ∈ found.pairedEvidence ∨
        ∃ sidecar ∈ rest, ∃ evidence, tree.Matches sidecar evidence ∧
          parts = evidence.relativeParts := by
  induction rest generalizing found with
  | nil => exact ⟨found, rfl, by simp, by simp⟩
  | cons first rest ih =>
    have plain := regular first List.mem_cons_self
    have plainLater := fun sidecar member => regular sidecar (List.mem_cons_of_mem first member)
    rw [inspectSidecars]
    simp only [List.mem_cons, exists_eq_or_imp]
    rcases inspect_cases plain with ⟨finding, inspected, alone, unnamed⟩ |
      ⟨evidence, raw, names, ⟨verified, inspected⟩ | ⟨refuted, inspected⟩⟩
    · have unmatched : ∀ evidence, ¬tree.Matches first evidence :=
        fun evidence ⟨raw, names, _⟩ => unnamed evidence raw names
      have orphan : ∀ parts, OrphanedBy tree first parts ↔ parts = first.relativeParts := by
        intro parts
        constructor
        · rintro (⟨same, -⟩ | ⟨evidence, ⟨raw, names, _⟩, -⟩)
          · exact same
          · exact absurd names (unnamed evidence raw)
        · exact fun same => .inl ⟨same, unmatched⟩
      have unpaired : ∀ parts, ¬∃ evidence, tree.Matches first evidence ∧
          parts = evidence.relativeParts :=
        fun parts ⟨evidence, fits, _⟩ => unmatched evidence fits
      rcases alone with rfl | ⟨raised, rfl⟩
      all_goals
        rw [inspected]
        obtain ⟨found', runs, orphaned, paired⟩ := ih plainLater
        refine ⟨found', runs, fun parts => ?_, fun parts => ?_⟩
        · rw [orphaned, orphan, List.mem_append, List.mem_singleton, or_assoc]
        · rw [paired]
          exact or_congr Iff.rfl (by simp [unpaired parts])
    · have orphan : ∀ parts, ¬OrphanedBy tree first parts := by
        rintro parts (⟨-, none⟩ | ⟨evidence', ⟨raw', names', refuted⟩, -⟩)
        · exact none evidence ⟨raw, names, verified⟩
        · obtain ⟨rfl, rfl⟩ := names.unique names'
          exact refuted verified
      have pairs : ∀ parts, (∃ evidence', tree.Matches first evidence' ∧
          parts = evidence'.relativeParts) ↔ parts = evidence.relativeParts := by
        intro parts
        constructor
        · rintro ⟨evidence', ⟨raw', names', _⟩, same⟩
          rw [same, (names.unique names').1]
        · exact fun same => ⟨evidence, ⟨raw, names, verified⟩, same⟩
      rw [inspected]
      obtain ⟨found', runs, orphaned, paired⟩ := ih plainLater
      refine ⟨found', runs, fun parts => ?_, fun parts => ?_⟩
      · rw [orphaned]
        exact or_congr Iff.rfl (by simp [orphan parts])
      · rw [paired, pairs, List.mem_append, List.mem_singleton, or_assoc]
    · have unmatched : ∀ evidence, ¬tree.Matches first evidence := by
        rintro evidence' ⟨raw', names', verified⟩
        obtain ⟨rfl, rfl⟩ := names.unique names'
        exact refuted verified
      have orphan : ∀ parts, OrphanedBy tree first parts ↔
          parts = first.relativeParts ∨ parts = evidence.relativeParts := by
        intro parts
        constructor
        · rintro (⟨same, -⟩ | ⟨evidence', ⟨raw', names', _⟩, same⟩)
          · exact .inl same
          · exact .inr (same.trans (congrArg _ (names.unique names').1.symm))
        · rintro (same | same)
          · exact .inl ⟨same, unmatched⟩
          · exact .inr ⟨evidence, ⟨raw, names, refuted⟩, same⟩
      have unpaired : ∀ parts, ¬∃ evidence, tree.Matches first evidence ∧
          parts = evidence.relativeParts :=
        fun parts ⟨evidence, fits, _⟩ => unmatched evidence fits
      rw [inspected]
      obtain ⟨found', runs, orphaned, paired⟩ := ih plainLater
      refine ⟨found', runs, fun parts => ?_, fun parts => ?_⟩
      · rw [orphaned, orphan, List.mem_append, List.mem_pair, or_assoc]
      · rw [paired]
        exact or_congr Iff.rfl (by simp [unpaired parts])

/-- A file is an orphan when it has no matching partner, or a sidecar names it in vain. -/
def Orphan (tree : ScannedTree) (record : RetainedFileRecord) : Prop :=
  (record.isSidecar = true ∧ ∀ evidence, ¬tree.Matches record evidence) ∨
    (record.isSidecar = false ∧ ∀ sidecar ∈ tree.sidecars, ¬tree.Matches sidecar record) ∨
      ∃ sidecar ∈ tree.sidecars, tree.Mismatches sidecar record

theorem mem_orphans : ∃ orphans errors, tree.classifyOrphanedRecords = .ok (orphans, errors) ∧
    ∀ record ∈ tree.records, record ∈ orphans ↔ Orphan tree record := by
  have plain : ∀ sidecar ∈ tree.sidecars, sidecar.isSymlink = false :=
    fun sidecar member => tree.regular sidecar (mem_sidecars.mp member).1
  obtain ⟨found, runs, orphaned, paired⟩ := @inspectSidecars_ok tree _ _ tree.sidecars ⟨[], [], []⟩ plain
  refine ⟨_, _, by rw [classifyOrphanedRecords, runs]; rfl, fun record member => ?_⟩
  have inSidecars : record ∈ tree.sidecars ↔ record.isSidecar = true := by
    rw [mem_sidecars]
    exact and_iff_right member
  have partner : ∀ sidecar, (∃ evidence, tree.Matches sidecar evidence ∧
      record.relativeParts = evidence.relativeParts) ↔ tree.Matches sidecar record := by
    intro sidecar
    constructor
    · rintro ⟨evidence, ⟨raw, names, verified⟩, same⟩
      obtain rfl := eq_of_parts member names.evidence same
      exact ⟨raw, names, verified⟩
    · exact fun fits => ⟨record, fits, rfl⟩
  have vain : ∀ sidecar, (∃ evidence, tree.Mismatches sidecar evidence ∧
      record.relativeParts = evidence.relativeParts) ↔ tree.Mismatches sidecar record := by
    intro sidecar
    constructor
    · rintro ⟨evidence, ⟨raw, names, refuted⟩, same⟩
      obtain rfl := eq_of_parts member names.evidence same
      exact ⟨raw, names, refuted⟩
    · exact fun fits => ⟨record, fits, rfl⟩
  have first : record.relativeParts ∈ found.orphaned ↔
      (record.isSidecar = true ∧ ∀ evidence, ¬tree.Matches record evidence) ∨
        ∃ sidecar ∈ tree.sidecars, tree.Mismatches sidecar record := by
    rw [orphaned]
    constructor
    · rintro (none | ⟨sidecar, inside, ⟨same, unmatched⟩ | named⟩)
      · exact absurd none List.not_mem_nil
      · obtain rfl := eq_of_parts member (mem_sidecars.mp inside).1 same
        exact .inl ⟨inSidecars.mp inside, unmatched⟩
      · exact .inr ⟨sidecar, inside, (vain sidecar).mp named⟩
    · rintro (⟨isSidecar, unmatched⟩ | ⟨sidecar, inside, named⟩)
      · exact .inr ⟨record, inSidecars.mpr isSidecar, .inl ⟨rfl, unmatched⟩⟩
      · exact .inr ⟨sidecar, inside, .inr ((vain sidecar).mpr named)⟩
  have partnered : record.relativeParts ∈ found.pairedEvidence ↔
      ∃ sidecar ∈ tree.sidecars, tree.Matches sidecar record := by
    rw [paired]
    constructor
    · rintro (none | ⟨sidecar, inside, fits⟩)
      · exact absurd none List.not_mem_nil
      · exact ⟨sidecar, inside, (partner sidecar).mp fits⟩
    · rintro ⟨sidecar, inside, fits⟩
      exact .inr ⟨sidecar, inside, (partner sidecar).mpr fits⟩
  have second : record.relativeParts ∈ (tree.records.filter fun record => !record.isSidecar &&
      (record.isSymlink || !found.pairedEvidence.contains record.relativeParts)).map
        (·.relativeParts) ↔
      record.isSidecar = false ∧ ∀ sidecar ∈ tree.sidecars, ¬tree.Matches sidecar record := by
    rw [List.mem_map]
    constructor
    · rintro ⟨other, inside, same⟩
      obtain ⟨inTree, alone⟩ := List.mem_filter.mp inside
      obtain rfl := eq_of_parts member inTree same.symm
      rw [tree.regular record member] at alone
      simp only [Bool.false_or, Bool.and_eq_true, Bool.not_eq_true', List.contains_eq_mem,
        decide_eq_false_iff_not, partnered] at alone
      exact ⟨alone.1, fun sidecar inside fits => alone.2 ⟨sidecar, inside, fits⟩⟩
    · rintro ⟨plainName, unmatched⟩
      refine ⟨record, List.mem_filter.mpr ⟨member, ?_⟩, rfl⟩
      simp only [plainName, Bool.not_false, Bool.true_and, Bool.or_eq_true, Bool.not_eq_true',
        List.contains_eq_mem, decide_eq_false_iff_not, partnered]
      exact .inr fun ⟨sidecar, inside, fits⟩ => unmatched sidecar inside fits
  rw [List.mem_insertionSort, List.mem_filter, List.contains_eq_mem, decide_eq_true_iff,
    List.mem_append, first, second, and_iff_right member]
  constructor
  · rintro ((alone | vain) | alone)
    · exact .inl alone
    · exact .inr (.inr vain)
    · exact .inr (.inl alone)
  · rintro (alone | alone | vain)
    · exact .inl (.inl alone)
    · exact .inr alone
    · exact .inl (.inr vain)

/-! ## Agreement -/

/-- The two validators agree: no validation error exactly when no sidecar is an orphan, and the
files of the planned pairs are the files that are not orphans. -/
def Agree (tree : ScannedTree) (maxManifests : Nat) : Prop :=
  ∃ plan count orphans errors,
    tree.planRetainedPairs maxManifests = .ok (plan, count) ∧
    tree.classifyOrphanedRecords = .ok (orphans, errors) ∧
    (plan.errors = [] ↔ ∀ sidecar ∈ tree.sidecars, sidecar ∉ orphans) ∧
    ∀ record ∈ tree.records,
      (∃ pair ∈ plan.pairs, record = pair.evidence ∨ record = pair.sidecar) ↔ record ∉ orphans

/-- What a sidecar may not be for the two to agree. -/
structure Consistent (tree : ScannedTree) : Prop where
  /-- The manifest check raises nothing that the loop of the plan lets through. -/
  settled : ∀ sidecar ∈ tree.sidecars, Settled tree sidecar
  /-- A sidecar that fits its evidence but is no valid manifest for it stands only where both files
  are disowned elsewhere: other sidecars name them in vain, or the evidence has a valid one. -/
  complete : ∀ sidecar ∈ tree.sidecars, ∀ evidence, tree.Matches sidecar evidence →
    ¬tree.Valid sidecar evidence →
      (∃ other ∈ tree.sidecars, tree.Mismatches other sidecar) ∧
        (evidence.isSidecar = true ∨ (∃ other ∈ tree.sidecars, tree.Mismatches other evidence) ∨
          ∃ other ∈ tree.sidecars, tree.Valid other evidence)
  /-- No sidecar names a file of a valid pair in vain. -/
  undisturbed : ∀ sidecar ∈ tree.sidecars, ∀ evidence, tree.Valid sidecar evidence →
    ∀ other ∈ tree.sidecars, ¬tree.Mismatches other sidecar ∧ ¬tree.Mismatches other evidence

theorem Valid.matches {sidecar evidence : RetainedFileRecord} (valid : tree.Valid sidecar evidence) :
    tree.Matches sidecar evidence := by
  obtain ⟨-, -, raw, names, verified, -⟩ := valid
  exact ⟨raw, names, verified⟩

/-- The evidence of a valid pair is no sidecar. -/
theorem Valid.evidence_plain (folds : FoldsSuffix) {sidecar evidence : RetainedFileRecord}
    (valid : tree.Valid sidecar evidence) : evidence.isSidecar = false := by
  obtain ⟨-, -, raw, names, -, ⟨name, expiresAt⟩, accepted⟩ := valid
  obtain ⟨named, -, unreserved, -⟩ := validate_named accepted
  have parts := (mem_of_byRelative names.found).2
  rw [named] at parts
  have own : evidence.name = name := by
    unfold RetainedFileRecord.name
    rw [parts, List.getLastD_concat]
  unfold RetainedFileRecord.isSidecar
  rw [own, ← Bool.not_eq_true]
  intro suffixed
  have reserved : isReservedRetainedEvidenceName name = true := by
    unfold isReservedRetainedEvidenceName
    rw [folds.endsWith suffixed, Bool.or_true]
  exact absurd (reserved.symm.trans unreserved) nofun

theorem planRetainedPairs_eq {maxManifests : Nat} (limit : tree.sidecars.length ≤ maxManifests) :
    tree.planRetainedPairs maxManifests =
      (tree.planPairs tree.sidecars ⟨[], []⟩).map fun plan => (plan, tree.sidecars.length) := by
  unfold planRetainedPairs
  dsimp only
  rw [if_neg (Nat.not_lt.mpr limit), List.take_of_length_le limit]
  cases tree.planPairs tree.sidecars ⟨[], []⟩ <;> rfl

omit [Host] [JsonDecoder] in
theorem sidecars_nodup : tree.sidecars.Nodup :=
  (List.perm_insertionSort _ _).nodup_iff.mpr ((List.Nodup.of_map _ tree.distinct).filter _)

/-- The pairs of a plan are the valid pairs, and it has no error when every sidecar has one. -/
theorem planRetainedPairs_ok {maxManifests : Nat} (limit : tree.sidecars.length ≤ maxManifests)
    (settled : ∀ sidecar ∈ tree.sidecars, Settled tree sidecar) :
    ∃ plan, tree.planRetainedPairs maxManifests = .ok (plan, tree.sidecars.length) ∧
      (∀ sidecar evidence, plan.Has sidecar evidence ↔
        sidecar ∈ tree.sidecars ∧ tree.Valid sidecar evidence) ∧
      (plan.errors = [] ↔ ∀ sidecar ∈ tree.sidecars, ∃ evidence, tree.Valid sidecar evidence) := by
  obtain ⟨plan, runs, pairs, errors⟩ := @planPairs_ok tree _ _ tree.sidecars ⟨[], []⟩ sidecars_nodup
    (fun sidecar member => (mem_sidecars.mp member).1) settled (by simp)
  refine ⟨plan, by rw [planRetainedPairs_eq limit, runs]; rfl, fun sidecar evidence => ?_, ?_⟩
  · rw [pairs]
    exact or_iff_right fun ⟨pair, member, _⟩ => List.not_mem_nil member
  · rw [errors]
    exact and_iff_right rfl

/-- The files of the valid pairs are the files that are not orphans. -/
def Exact (tree : ScannedTree) : Prop :=
  ∀ record ∈ tree.records, ¬Orphan tree record ↔
    ∃ sidecar ∈ tree.sidecars, ∃ evidence, tree.Valid sidecar evidence ∧
      (record = evidence ∨ record = sidecar)

theorem exact_of_consistent (folds : FoldsSuffix) (consistent : Consistent tree) : Exact tree := by
  intro record member
  constructor
  · intro kept
    unfold Orphan at kept
    push Not at kept
    obtain ⟨asSidecar, asEvidence, undisowned⟩ := kept
    cases role : record.isSidecar with
    | true =>
      obtain ⟨evidence, fits⟩ := asSidecar role
      have listed : record ∈ tree.sidecars := mem_sidecars.mpr ⟨member, role⟩
      by_cases valid : tree.Valid record evidence
      · exact ⟨record, listed, evidence, valid, .inr rfl⟩
      · obtain ⟨⟨other, inside, vain⟩, -⟩ := consistent.complete record listed evidence fits valid
        exact absurd vain (undisowned other inside)
    | false =>
      obtain ⟨sidecar, listed, fits⟩ := asEvidence role
      by_cases valid : tree.Valid sidecar record
      · exact ⟨sidecar, listed, record, valid, .inl rfl⟩
      · obtain ⟨-, named | ⟨other, inside, vain⟩ | ⟨other, inside, valid'⟩⟩ :=
          consistent.complete sidecar listed record fits valid
        · exact absurd (role.symm.trans named) nofun
        · exact absurd vain (undisowned other inside)
        · exact ⟨other, inside, record, valid', .inl rfl⟩
  · rintro ⟨sidecar, listed, evidence, valid, rfl | rfl⟩
    · rintro (⟨role, -⟩ | ⟨-, alone⟩ | ⟨other, inside, vain⟩)
      · exact absurd (role.symm.trans (valid.evidence_plain folds)) nofun
      · exact alone sidecar listed valid.matches
      · exact (consistent.undisturbed sidecar listed _ valid other inside).2 vain
    · rintro (⟨-, alone⟩ | ⟨role, -⟩ | ⟨other, inside, vain⟩)
      · exact alone evidence valid.matches
      · exact absurd (role.symm.trans (mem_sidecars.mp listed).2) nofun
      · exact (consistent.undisturbed _ listed evidence valid other inside).1 vain

theorem consistent_of_exact (folds : FoldsSuffix)
    (settled : ∀ sidecar ∈ tree.sidecars, Settled tree sidecar) (exact : Exact tree) :
    Consistent tree where
  settled := settled
  complete sidecar listed evidence fits invalid := by
    obtain ⟨raw, names, verified⟩ := fits
    have member := (mem_sidecars.mp listed).1
    have inTree := names.evidence
    constructor
    · by_contra undisowned
      push Not at undisowned
      have kept : ¬Orphan tree sidecar := by
        rintro (⟨-, alone⟩ | ⟨role, -⟩ | ⟨other, inside, vain⟩)
        · exact alone evidence ⟨raw, names, verified⟩
        · exact absurd (role.symm.trans (mem_sidecars.mp listed).2) nofun
        · exact undisowned other inside vain
      obtain ⟨other, inside, evidence', valid, rfl | rfl⟩ := (exact sidecar member).mp kept
      · exact absurd ((mem_sidecars.mp listed).2.symm.trans (valid.evidence_plain folds)) nofun
      · obtain ⟨raw', names', -⟩ := valid.matches
        obtain ⟨rfl, -⟩ := names.unique names'
        exact invalid valid
    · by_contra kept
      push Not at kept
      obtain ⟨role, undisowned, unpaired⟩ := kept
      have notOrphan : ¬Orphan tree evidence := by
        rintro (⟨role', -⟩ | ⟨-, alone⟩ | ⟨other, inside, vain⟩)
        · exact role role'
        · exact alone sidecar listed ⟨raw, names, verified⟩
        · exact undisowned other inside vain
      obtain ⟨other, inside, evidence', valid, rfl | rfl⟩ := (exact evidence inTree).mp notOrphan
      · exact unpaired other inside valid
      · exact role (mem_sidecars.mp inside).2
  undisturbed sidecar listed evidence valid other inside := by
    obtain ⟨raw, names, -⟩ := valid.matches
    have first := (exact sidecar (mem_sidecars.mp listed).1).mpr
      ⟨sidecar, listed, evidence, valid, .inr rfl⟩
    have second := (exact evidence names.evidence).mpr ⟨sidecar, listed, evidence, valid, .inl rfl⟩
    exact ⟨fun vain => first (.inr (.inr ⟨other, inside, vain⟩)),
      fun vain => second (.inr (.inr ⟨other, inside, vain⟩))⟩

/-- Purge and repair agree about a tree within the limits exactly when its sidecars are
consistent. -/
theorem agree_iff (folds : FoldsSuffix) {maxManifests : Nat}
    (limit : tree.sidecars.length ≤ maxManifests) :
    Agree tree maxManifests ↔ Consistent tree := by
  obtain ⟨orphans, errors, classified, orphan⟩ := @mem_orphans tree _ _
  have files (settled : ∀ sidecar ∈ tree.sidecars, Settled tree sidecar) {plan : Plan} {count : Nat}
      (planned : tree.planRetainedPairs maxManifests = .ok (plan, count)) :
      (∀ record, (∃ pair ∈ plan.pairs, record = pair.evidence ∨ record = pair.sidecar) ↔
        ∃ sidecar ∈ tree.sidecars, ∃ evidence, tree.Valid sidecar evidence ∧
          (record = evidence ∨ record = sidecar)) ∧
      (plan.errors = [] ↔ ∀ sidecar ∈ tree.sidecars, ∃ evidence, tree.Valid sidecar evidence) := by
    obtain ⟨plan', runs, pairs, none⟩ := planRetainedPairs_ok limit settled
    obtain ⟨rfl, -⟩ := Prod.mk.inj (Except.ok.inj (runs.symm.trans planned))
    refine ⟨fun record => ⟨?_, ?_⟩, none⟩
    · rintro ⟨pair, member, role⟩
      obtain ⟨listed, valid⟩ := (pairs _ _).mp ⟨pair, member, rfl, rfl⟩
      exact ⟨_, listed, _, valid, role⟩
    · rintro ⟨sidecar, listed, evidence, valid, role⟩
      obtain ⟨pair, member, rfl, rfl⟩ := (pairs _ _).mpr ⟨listed, valid⟩
      exact ⟨pair, member, role⟩
  constructor
  · rintro ⟨plan, count, orphans', errors', planned, classified', -, same⟩
    obtain ⟨rfl, -⟩ := Prod.mk.inj (Except.ok.inj (classified.symm.trans classified'))
    have settled : ∀ sidecar ∈ tree.sidecars, Settled tree sidecar := by
      intro sidecar listed
      by_contra unsettled
      obtain ⟨raised, fails⟩ := @planPairs_raises tree _ _ tree.sidecars ⟨[], []⟩ sidecar listed unsettled
      rw [planRetainedPairs_eq limit, fails] at planned
      cases planned
    refine consistent_of_exact folds settled fun record member => ?_
    rw [← orphan record member, ← same record member]
    exact (files settled planned).1 record
  · intro consistent
    have exact := exact_of_consistent folds consistent
    obtain ⟨plan, planned, -⟩ := planRetainedPairs_ok limit consistent.settled
    obtain ⟨pairs, none⟩ := files consistent.settled planned
    have same : ∀ record ∈ tree.records,
        (∃ pair ∈ plan.pairs, record = pair.evidence ∨ record = pair.sidecar) ↔
          record ∉ orphans := by
      intro record member
      rw [pairs, orphan record member, exact record member]
    refine ⟨plan, _, orphans, errors, planned, classified, ?_, same⟩
    rw [none]
    refine forall₂_congr fun sidecar listed => ?_
    rw [← same sidecar (mem_sidecars.mp listed).1, pairs]
    constructor
    · rintro ⟨evidence, valid⟩
      exact ⟨sidecar, listed, evidence, valid, .inr rfl⟩
    · rintro ⟨other, inside, evidence, valid, rfl | rfl⟩
      · exact absurd ((mem_sidecars.mp listed).2.symm.trans (valid.evidence_plain folds)) nofun
      · exact ⟨evidence, valid⟩

end

/-! ## A sidecar between the two -/

namespace Samples

/-- The digest of the evidence text `hello`. -/
def helloDigest : String := "5aa762ae383fbb727af3c7a36d4940a5b8c40a989452d2304fc958ff3f354e7a"

/-- A host that knows one digest. -/
@[reducible]
def host : Host := asciiHost fun text =>
  if text = (Json.str "hello").dumps then helloDigest else (numeral 0).val

/-- A manifest with the two members that a repair reads, and no others. -/
def manifest : Fields := [("content_digest", .str helloDigest), ("evidence_path", .str "note.txt")]

@[reducible]
def decoder : JsonDecoder where
  loads text := if text = (Json.obj manifest).dumps then some (.obj manifest) else none

def note : RetainedFileRecord := ⟨["note.txt"], 1, false, 5⟩
def sidecar : RetainedFileRecord := ⟨["note.txt.retention.json"], 1, false, 120⟩

/-- `note.txt` with its sidecar. -/
def scanned : ScannedTree where
  rootDevice := 1
  records := [note, sidecar]
  contents parts :=
    if parts = ["note.txt"] then some "hello" else some (Json.obj manifest).dumps
  distinct := by decide
  named := by decide
  regular := by decide

theorem host_folds : @FoldsSuffix host := by
  let := host
  refine ⟨fun c member => ?_⟩
  have lower : ∀ c ∈ ".retention.json".toList, c.toLower = c :=
    forall_chars (by decide)
  exact congrArg (fun c => [c]) (lower c member)

end Samples

section
attribute [local instance] Samples.host Samples.decoder

theorem sample_agree_iff : Agree Samples.scanned 1000 ↔ Consistent Samples.scanned :=
  agree_iff Samples.host_folds (by decide)

end

/-- A sidecar without the other members of the schema fits its evidence, so that a repair leaves
it in place, and makes every purge fail. -/
theorem partial_sidecar_blocks : ¬ ∀ [Host] [JsonDecoder], FoldsSuffix → ∀ (tree : ScannedTree)
    (maxManifests : Nat), tree.sidecars.length ≤ maxManifests → Agree tree maxManifests := by
  intro agree
  let := Samples.host
  let := Samples.decoder
  obtain ⟨plan, count, orphans, errors, planned, classified, same, -⟩ :=
    agree Samples.host_folds Samples.scanned 1000 (by decide)
  have refused : Samples.scanned.planRetainedPairs 1000 =
    .ok (⟨[], ["note.txt.retention.json: invalid retained pair: ValueError"]⟩, 1) := rfl
  have kept : Samples.scanned.classifyOrphanedRecords = .ok ([], []) := by decide +kernel
  obtain ⟨rfl, -⟩ := Prod.mk.inj (Except.ok.inj (refused.symm.trans planned))
  obtain ⟨rfl, -⟩ := Prod.mk.inj (Except.ok.inj (kept.symm.trans classified))
  exact absurd (same.mpr fun _ _ => List.not_mem_nil) (List.cons_ne_nil _ _)

end ScannedTree
end MasterAgent.Retention
