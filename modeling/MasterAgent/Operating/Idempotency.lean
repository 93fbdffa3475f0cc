import MasterAgent.Operating.Install

/-!
# Installations one after the other

Results:

1. `wp_ensurePrivateDirectory`: what a walk over a path leaves, wherever it is cut;
2. `wp_publish`: what the creation of the file leaves;
3. `installation_idempotent`: the destination over any number of calls.
-/

namespace MasterAgent.Operating
open Base Base.Effect

variable {cut : CutAt} {visit : Visit} {path : Path} {w s : World} {transfers : Transfers}
  {openMode : Nat} {p : Profile}

/-! ## Points -/

theorem wp_stepAt {point : Point} {Q : Unit → World → Prop} {X : Exn → World → Prop}
    {C : World → Prop} (passes : Q () w) (raises : ∀ e, cut = some (point, .raises) → X e w)
    (crashes : cut = some (point, .crashes) → C w) : wp (stepAt cut point) Q X C w := by
  unfold stepAt
  refine wp_point.mpr ?_
  by_cases raised : cut = some (point, .raises)
  · rw [if_pos raised]
    refine ⟨nofun, ?_, nofun⟩
    intro e _
    exact raises e raised
  rw [if_neg raised]
  by_cases crashed : cut = some (point, .crashes)
  · rw [if_pos crashed]
    exact ⟨nofun, fun _ => nofun, fun _ => crashes crashed⟩
  · rw [if_neg crashed]
    exact ⟨fun _ => passes, fun _ => nofun, nofun⟩

/-- A step at which the state may be left as it is. -/
theorem wp_quiet {point : Point} {Q : Unit → World → Prop} {X : Exn → World → Prop}
    {C : World → Prop} (passes : Q () w) (raises : ∀ e, cut ≠ none → X e w) (crashes : cut ≠ none → C w) :
    wp (stepAt cut point) Q X C w :=
  wp_stepAt passes (fun e raised => raises e (raised ▸ nofun)) fun crashed =>
    crashes (crashed ▸ nofun)

/-! ## A walk over a path -/

/-- The mode of the directory above has the set-group-ID bit. -/
def World.Inherits (w : World) (path : Path) : Prop :=
  ∃ mode, w path.dropLast = some (.directory mode) ∧ mode &&& 0o2000 ≠ 0

/-- The points between `mkdir` and `fchmod`. -/
def DirectoryPoint.unfinished : DirectoryPoint → Bool
  | .fsyncParent | .reopen | .fstat | .stat | .fchmod => true
  | _ => false

/-- The visit is cut between the creation of the directory and its `fchmod`. -/
def Unfinished (cut : CutAt) (visit : Visit) (path : Path) : Prop :=
  ∃ point halt, cut = some (.directory visit path point, halt) ∧ point.unfinished = true

/-- The visit has created the directory, and set its mode or been cut before. -/
def Made (cut : CutAt) (visit : Visit) (w s : World) (path : Path) : Prop :=
  w path = none ∧ (s path = some (.directory 0o700) ∨
    Unfinished cut visit path ∧ w.Inherits path ∧ ∃ mode, s path = some (.directory mode))

/-- What a visit may leave: new directories on its path, and the rest unchanged. -/
def Grown (cut : CutAt) (visit : Visit) (path : Path) (w s : World) : Prop :=
  ∀ q, s q = w q ∨ (q <+: path ∧ q ≠ [] ∧ Made cut visit w s q)

/-- What a visit leaves that has not been cut. -/
def Finished (path : Path) (w s : World) : Prop :=
  ∀ q, s q = w q ∨ (q <+: path ∧ q ≠ [] ∧ w q = none ∧ s q = some (.directory 0o700))

/-- A file stands on the path, or the last directory has another mode. -/
def Obstructed (path : Path) (w : World) : Prop :=
  (∃ q mode content, q <+: path ∧ q ≠ [] ∧ w q = some (.file mode content)) ∨
    ∃ mode, w path = some (.directory mode) ∧ mode ≠ 0o700

theorem Finished.grown (h : Finished path w s) : Grown cut visit path w s := fun q =>
  (h q).imp_right fun made => ⟨made.1, made.2.1, made.2.2.1, .inl made.2.2.2⟩

theorem Finished.refl : Finished path w w := fun _ => .inl rfl

theorem set_same {entry : Entry} : w.set path entry path = some entry := Function.update_self ..

theorem set_other {q : Path} {entry : Entry} (other : q ≠ path) : w.set path entry q = w q :=
  Function.update_of_ne other ..

theorem set_set {first entry : Entry} : (w.set path first).set path entry = w.set path entry :=
  Function.update_idem ..

/-- A new directory after its `fchmod`. -/
theorem Finished.set {q : Path} (h : Finished path w s) (part : q <+: path) (nonempty : q ≠ [])
    (absent : s q = none) : Finished path w (s.set q (.directory 0o700)) := by
  intro other
  by_cases same : other = q
  · subst same
    refine .inr ⟨part, nonempty, ?_, set_same⟩
    rcases h other with kept | made
    · exact kept ▸ absent
    · exact absurd (made.2.2.2.symm.trans absent) nofun
  · rw [set_other same]
    exact h other

theorem madeMode_eq (fresh : ¬s.Inherits path) : s.madeMode path = 0o700 := by
  unfold World.madeMode
  split
  · next mode above =>
      have bit : mode &&& 0o2000 = 0 := by
        by_contra set_
        exact fresh ⟨mode, above, set_⟩
      rw [bit, Nat.or_zero]
  · rfl

/-- The directories that the visit has made do not pass the bit on. -/
theorem Finished.inherits {q : Path} (h : Finished path w s) (inherits : s.Inherits q) :
    w.Inherits q := by
  obtain ⟨mode, above, bit⟩ := inherits
  rcases h q.dropLast with kept | made
  · exact ⟨mode, kept ▸ above, bit⟩
  · rw [made.2.2.2] at above
    cases above
    exact absurd rfl bit

/-- A new directory before its `fchmod`. -/
theorem Finished.unfinished {q : Path} (h : Finished path w s) (part : q <+: path)
    (nonempty : q ≠ []) (absent : s q = none) (cut_ : Unfinished cut visit q) :
    Grown cut visit path w (s.set q (.directory (s.madeMode q))) := by
  intro other
  by_cases same : other = q
  · subst same
    refine .inr ⟨part, nonempty, ?_, ?_⟩
    · rcases h other with kept | made
      · exact kept ▸ absent
      · exact absurd (made.2.2.2.symm.trans absent) nofun
    · by_cases inherits : s.Inherits other
      · exact .inr ⟨cut_, h.inherits inherits, _, set_same⟩
      · rw [madeMode_eq inherits]
        exact .inl set_same
  · rw [set_other same]
    have grown : Grown cut visit path w s := h.grown
    refine (grown other).imp_right fun ⟨part, nonempty, absent, made⟩ => ?_
    exact ⟨part, nonempty, absent, by rwa [set_other same]⟩

/-- One component is a directory afterwards. -/
theorem wp_enter {q : Path} (h : Finished path w s) (part : q <+: path) (nonempty : q ≠ []) :
    wp (enter cut visit q)
      (fun _ s' => Finished path w s' ∧ (∃ mode, s' q = some (.directory mode)) ∧
        ∀ other, s other ≠ none → s' other = s other)
      (fun _ s => Grown cut visit path w s ∧ (cut ≠ none ∨ Obstructed path w))
      (fun s => Grown cut visit path w s ∧ cut ≠ none) s := by
  have quiet {s : World} {point : Point} {Q : Unit → World → Prop} (left : Grown cut visit path w s)
      (passes : Q () s) : wp (stepAt cut point) Q
        (fun _ s => Grown cut visit path w s ∧ (cut ≠ none ∨ Obstructed path w))
        (fun s => Grown cut visit path w s ∧ cut ≠ none) s :=
    wp_quiet passes (fun _ cut_ => ⟨left, .inl cut_⟩) fun cut_ => ⟨left, cut_⟩
  unfold enter
  refine wp_bind.mpr (quiet h.grown (wp_bind.mpr (wp_get.mpr ?_)))
  cases found : s q with
  | some entry =>
      cases entry with
      | file mode content =>
          refine wp_raise.mpr ⟨h.grown, .inr (.inl ⟨q, mode, content, part, nonempty, ?_⟩)⟩
          rcases h q with kept | made
          · exact kept ▸ found
          · exact absurd (made.2.2.2.symm.trans found) nofun
      | directory mode =>
          unfold checkDirectory
          exact wp_bind.mpr (quiet h.grown (quiet h.grown ⟨h, ⟨mode, found⟩, fun _ _ => rfl⟩))
  | none =>
      have between {point : DirectoryPoint} {Q : Unit → World → Prop}
          (listed : point.unfinished = true)
          (passes : Q () (s.set q (.directory (s.madeMode q)))) :
          wp (stepAt cut (.directory visit q point)) Q
            (fun _ s => Grown cut visit path w s ∧ (cut ≠ none ∨ Obstructed path w))
            (fun s => Grown cut visit path w s ∧ cut ≠ none) (s.set q (.directory (s.madeMode q))) := by
        refine wp_stepAt passes (fun _ raised => ⟨?_, .inl (raised ▸ nofun)⟩) fun crashed => ?_
        · exact h.unfinished part nonempty found ⟨point, _, raised, listed⟩
        · exact ⟨h.unfinished part nonempty found ⟨point, _, crashed, listed⟩, crashed ▸ nofun⟩
      unfold makeDirectory checkDirectory makePrivate
      refine wp_bind.mpr (wp_bind.mpr (quiet h.grown (wp_bind.mpr (wp_modify.mpr ?_))))
      refine wp_bind.mpr (between rfl (between rfl ?_))
      refine wp_bind.mpr (wp_bind.mpr (between rfl (between rfl ?_)))
      refine wp_bind.mpr (between rfl (wp_bind.mpr (wp_modify.mpr ?_)))
      rw [set_set]
      have done := h.set part nonempty found
      refine wp_bind.mpr (quiet done.grown (quiet done.grown ⟨done, ⟨_, set_same⟩, ?_⟩))
      intro other present
      exact set_other fun same => present (same ▸ found)

/-- The path is a directory of its own, under directories. -/
def Standing (path : Path) (s : World) : Prop :=
  s path = some (.directory 0o700) ∧ ∀ q, q <+: path → q ≠ [] → s q ≠ none

theorem wp_walk : ∀ {rest above : Path} {s : World}, Finished path w s → above ++ rest = path →
    path ≠ [] → (∀ q, q <+: above → q ≠ [] → ∃ mode, s q = some (.directory mode)) →
    wp (walk cut visit above rest) (fun _ s => Finished path w s ∧ Standing path s)
      (fun _ s => Grown cut visit path w s ∧ (cut ≠ none ∨ Obstructed path w))
      (fun s => Grown cut visit path w s ∧ cut ≠ none) s
  | [], above, s, h, whole, nonempty, present => by
      rw [List.append_nil] at whole
      subst whole
      refine wp_bind.mpr (wp_get.mpr ?_)
      by_cases private_ : s above = some (.directory 0o700)
      · rw [if_pos private_]
        refine ⟨h, private_, fun q part some_ => ?_⟩
        obtain ⟨mode, found⟩ := present q part some_
        rw [found]
        exact Option.some_ne_none _
      · rw [if_neg private_]
        obtain ⟨mode, found⟩ := present above (List.prefix_refl _) nonempty
        refine wp_raise.mpr ⟨h.grown, .inr (.inr ⟨mode, ?_, fun same => private_ (same ▸ found)⟩)⟩
        rcases h above with kept | made
        · exact kept ▸ found
        · exact absurd made.2.2.2 private_
  | component :: rest, above, s, h, whole, nonempty, present => by
      have next_ : above ++ [component] ++ rest = path := by
        rw [List.append_assoc, List.singleton_append, whole]
      have part : above ++ [component] <+: path := ⟨rest, next_⟩
      refine wp_bind.mpr (wp_mono (wp_enter h part (by simp)) ?_ (fun _ _ => id) fun _ => id)
      rintro _ s' ⟨finished, here, kept⟩
      refine wp_walk finished next_ nonempty fun q below some_ => ?_
      rcases List.prefix_concat_iff.mp below with rfl | above_
      · exact here
      · obtain ⟨mode, found⟩ := present q above_ some_
        exact ⟨mode, (kept q (found ▸ Option.some_ne_none _)).trans found⟩

theorem wp_ensurePrivateDirectory (nonempty : path ≠ [])
    (depth : path.length ≤ _MAX_DIRECTORY_DEPTH) :
    wp (ensurePrivateDirectory cut visit path) (fun _ s => Finished path w s ∧ Standing path s)
      (fun _ s => Grown cut visit path w s ∧ (cut ≠ none ∨ Obstructed path w))
      (fun s => Grown cut visit path w s ∧ cut ≠ none) w := by
  have start : Grown cut visit path w w := Finished.refl.grown
  unfold ensurePrivateDirectory
  rw [if_neg nonempty, if_neg (Nat.not_lt.mpr depth)]
  refine wp_bind.mpr (wp_quiet ?_ (fun _ cut_ => ⟨start, .inl cut_⟩) fun cut_ => ⟨start, cut_⟩)
  refine wp_handle.mpr (wp_mono (wp_walk Finished.refl (List.nil_append path) nonempty ?_)
    (fun _ _ => id) (fun _ _ raised => wp_raise.mpr raised) fun _ => id)
  intro q part some_
  exact absurd (List.prefix_nil.mp part) some_

/-! ## Reading the file -/

/-- Reading never changes anything. It fails when it is cut or there is no private file. -/
theorem wp_readPrivateFile :
    wp (readPrivateFile cut visit transfers path)
      (fun payload s => s = w ∧ w path = some (.file 0o600 payload))
      (fun _ s => s = w ∧ (cut ≠ none ∨ ¬∃ content, content.length ≤ _MAX_PROFILE_BYTES ∧
        w path = some (.file 0o600 content))) (fun s => s = w ∧ cut ≠ none) w := by
  unfold readPrivateFile
  have quiet {point : Point} {Q : Unit → World → Prop} (passes : Q () w) :
      wp (stepAt cut point) Q
        (fun _ s => s = w ∧ (cut ≠ none ∨ ¬∃ content, content.length ≤ _MAX_PROFILE_BYTES ∧
          w path = some (.file 0o600 content))) (fun s => s = w ∧ cut ≠ none) w :=
    wp_quiet passes (fun _ cut_ => ⟨rfl, .inl cut_⟩) fun cut_ => ⟨rfl, cut_⟩
  refine wp_handle.mpr (wp_mono (Q := fun payload s => s = w ∧ w path = some (.file 0o600 payload))
    (X := fun _ s => s = w ∧ (cut ≠ none ∨ ¬∃ content, content.length ≤ _MAX_PROFILE_BYTES ∧
      w path = some (.file 0o600 content))) (C := fun s => s = w ∧ cut ≠ none) ?_ (fun _ _ => id)
    (fun _ _ raised => wp_raise.mpr raised) fun _ => id)
  refine wp_bind.mpr (quiet (wp_bind.mpr (wp_get.mpr ?_)))
  cases found : w path with
  | none => exact wp_raise.mpr ⟨rfl, .inr fun ⟨_, _, same⟩ => nomatch same⟩
  | some entry =>
  rw [found] at quiet
  cases entry with
  | directory mode =>
      refine wp_bind.mpr (quiet (wp_raise.mpr ⟨rfl, .inr fun ⟨_, _, same⟩ => nomatch same⟩))
  | file mode content =>
      refine wp_bind.mpr (quiet ?_)
      by_cases private_ : mode = 0o600
      swap
      · rw [if_pos private_]
        refine wp_raise.mpr ⟨rfl, .inr ?_⟩
        rintro ⟨_, -, same⟩
        cases same
        exact private_ rfl
      subst private_
      rw [if_neg (not_not_intro rfl)]
      by_cases large : _MAX_PROFILE_BYTES < content.length
      · rw [if_pos large]
        refine wp_raise.mpr ⟨rfl, .inr ?_⟩
        rintro ⟨_, within, same⟩
        cases same
        exact absurd large (Nat.not_lt.mpr within)
      rw [if_neg large]
      refine wp_bind.mpr (wp_mono (wp_readBlocks (by decide) (fun _ => quiet rfl)
        (Nat.lt_succ_self _) (by rw [List.length_nil]; omega)) ?_ (fun _ _ => id) fun _ => id)
      rintro _ s ⟨rfl, rfl⟩
      refine wp_bind.mpr (quiet (wp_bind.mpr (quiet ?_)))
      rw [if_neg (not_not_intro rfl)]
      exact wp_bind.mpr (quiet ⟨rfl, rfl⟩)

theorem wp_compareExisting :
    wp (compareExisting cut visit transfers p)
      (fun _ s => s = w ∧ w p.target = some (.file 0o600 p.payload))
      (fun _ s => s = w ∧ (cut ≠ none ∨ w p.target ≠ some (.file 0o600 p.payload)))
      (fun s => s = w ∧ cut ≠ none) w := by
  unfold compareExisting
  refine wp_bind.mpr (wp_mono wp_readPrivateFile ?_ ?_ fun _ => id)
  · rintro existing s ⟨rfl, found⟩
    by_cases same : existing = p.payload
    · rw [if_pos same]
      exact ⟨rfl, same ▸ found⟩
    · rw [if_neg same]
      refine wp_raise.mpr ⟨rfl, .inr fun installed => same ?_⟩
      rw [installed] at found
      cases found
      rfl
  · rintro _ s ⟨rfl, failed⟩
    exact ⟨rfl, failed.imp_right fun none_ installed => none_ ⟨_, p.bounded, installed⟩⟩

/-! ## Creating the file -/

/-- The profile is installed. -/
def Profile.installed (p : Profile) : Entry := .file 0o600 p.payload

def FilePoint.rollback : FilePoint → Bool
  | .rollbackStat | .rollbackUnlink | .rollbackFsync => true
  | _ => false

/-- The cut leaves a file that nothing removes: it comes before the file is owned, or it is a crash
before the last byte. -/
def SpoilsFile (cut : CutAt) (transfers : Transfers) (p : Profile) : Prop :=
  (∃ halt, cut = some (.file .fchmod, halt) ∨ cut = some (.file .fstat, halt)) ∨
    ∃ round, cut = some (.file (.write round), .crashes) ∧
      transfers.total round < p.payload.length

theorem remove_set {entry : Entry} (absent : w path = none) :
    (w.set path entry).remove path = w := by
  unfold World.remove World.set
  rw [Function.update_idem, ← absent, Function.update_eq_self]

/-- The rest of an installation completes the file, or raises for a step of its own. -/
theorem wp_completeFile (whole : ¬SpoilsFile cut transfers p) :
    wp (completeFile cut transfers p) (fun _ s => s = w.set p.target p.installed)
      (fun _ s => (∃ content, s = w.set p.target (.file 0o600 content)) ∧
        ∃ point, cut = some (.file point, .raises) ∧ point.rollback = false)
      (fun s => s = w.set p.target p.installed ∧ cut ≠ none) (w.set p.target (.file 0o600 [])) := by
  have quiet {point : FilePoint} {Q : Unit → World → Prop} (listed : point.rollback = false)
      (passes : Q () (w.set p.target p.installed)) : wp (stepAt cut (.file point)) Q
        (fun _ s => (∃ content, s = w.set p.target (.file 0o600 content)) ∧
          ∃ point, cut = some (.file point, .raises) ∧ point.rollback = false)
        (fun s => s = w.set p.target p.installed ∧ cut ≠ none) (w.set p.target p.installed) :=
    wp_stepAt passes (fun _ raised => ⟨⟨p.payload, rfl⟩, point, raised, listed⟩) fun crashed =>
      ⟨rfl, crashed ▸ nofun⟩
  unfold completeFile
  refine wp_bind.mpr (wp_mono (wp_writeRounds (fun round written s =>
    s = w.set p.target (.file 0o600 written) ∧
      written.length = min (transfers.total round) p.payload.length) ?_ (Nat.le_refl _)
      (List.nil_append p.payload) ⟨rfl, by rw [Transfers.total, Nat.zero_min, List.length_nil]⟩) ?_
      (fun _ _ raised => raised) fun _ => id)
  · rintro round written remaining _ more all ⟨rfl, length⟩
    have left := List.length_pos_iff.mpr more
    have sum : written.length + remaining.length = p.payload.length := by
      rw [← all, List.length_append]
    refine wp_stepAt ⟨?_, ?_⟩ (fun _ raised => ⟨⟨written, rfl⟩, _, raised, rfl⟩) fun crashed => ?_
    · rw [set_same]
      exact set_set
    · rw [List.length_append, List.length_take, Transfers.total]
      omega
    · exact absurd (.inr ⟨round, crashed, by omega⟩) whole
  rintro _ s ⟨-, rfl, -⟩
  refine wp_bind.mpr (quiet rfl (wp_bind.mpr (quiet rfl (wp_bind.mpr (wp_get.mpr ?_)))))
  rw [set_same]
  dsimp only [Profile.installed]
  rw [if_neg (by simp)]
  refine wp_bind.mpr (quiet rfl (wp_bind.mpr (quiet rfl ?_)))
  refine wp_bind.mpr (wp_mono (wp_readBlocks (by decide) (fun _ => quiet rfl rfl)
    (Nat.lt_succ_self _) (by rw [List.length_nil, Nat.zero_add]; exact p.bounded)) ?_
    (fun _ _ => id) fun _ => id)
  rintro _ s ⟨rfl, rfl⟩
  refine wp_bind.mpr (quiet rfl (wp_bind.mpr (quiet rfl ?_)))
  rw [List.nil_append, if_neg (not_not_intro rfl)]
  exact wp_bind.mpr (quiet rfl (wp_bind.mpr (quiet rfl (quiet rfl rfl))))

/-- The file of a call is complete or gone when the call stops. -/
theorem wp_fillFile (whole : ¬SpoilsFile cut transfers p) (absent : w p.target = none) :
    wp (fillFile cut transfers p) (fun _ s => s = w.set p.target p.installed)
      (fun _ s => (s = w ∨ s = w.set p.target p.installed) ∧ cut ≠ none)
      (fun s => (s = w ∨ s = w.set p.target p.installed) ∧ cut ≠ none)
      (w.set p.target (.file openMode [])) := by
  unfold fillFile
  refine wp_bind.mpr (wp_stepAt ?_ (fun _ raised => ?_) fun crashed => ?_)
  rotate_left
  · exact absurd (.inl ⟨_, .inl raised⟩) whole
  · exact absurd (.inl ⟨_, .inl crashed⟩) whole
  refine wp_bind.mpr (wp_modify.mpr ?_)
  rw [set_same]
  dsimp only
  rw [set_set]
  refine wp_bind.mpr (wp_stepAt ?_ (fun _ raised => ?_) fun crashed => ?_)
  rotate_left
  · exact absurd (.inl ⟨_, .inr raised⟩) whole
  · exact absurd (.inl ⟨_, .inr crashed⟩) whole
  refine wp_bind.mpr (wp_get.mpr ?_)
  rw [set_same, if_neg (not_not_intro rfl)]
  refine wp_bind.mpr (wp_cleanup.mpr (wp_mono (wp_completeFile whole) ?_ ?_ fun _ =>
    And.imp_left .inr))
  · rintro _ s rfl
    exact wp_stepAt rfl (fun _ raised => ⟨.inr rfl, raised ▸ nofun⟩) fun crashed =>
      ⟨.inr rfl, crashed ▸ nofun⟩
  -- the step that has raised is not one of the removal, which is therefore not cut
  · rintro _ _ ⟨⟨content, rfl⟩, point, raised, listed⟩
    have passes {other : FilePoint} {Q : Unit → World → Prop} {X : Exn → World → Prop}
        {C : World → Prop} {s : World} (undoing : other.rollback = true) (next_ : Q () s) :
        wp (stepAt cut (.file other)) Q X C s := by
      refine wp_stepAt next_ (fun _ same => ?_) fun same => ?_
      · rw [raised] at same
        cases same
        exact absurd (undoing.symm.trans listed) nofun
      · rw [raised] at same
        cases same
    refine wp_bind.mpr (passes rfl (wp_bind.mpr (wp_get.mpr ?_)))
    rw [set_same]
    dsimp only
    rw [if_pos rfl]
    refine wp_handle.mpr (wp_bind.mpr (passes rfl (wp_bind.mpr (wp_modify.mpr (passes rfl ?_)))))
    exact ⟨.inl (remove_set absent), raised ▸ nofun⟩

/-! ## One call -/

namespace Profile

/-- The directories that must have mode 0700. -/
def required (p : Profile) : List Path := [p.parent, p.stateRoot, p.runs]

/-- The path of a visit. -/
def pathOf (p : Profile) : Visit → Path
  | .stateRoot => p.stateRoot
  | .runs => p.runs
  | _ => p.parent

/-- The paths that a call has visited before. -/
def earlier (p : Profile) : Visit → List Path
  | .first => []
  | .runs => [p.parent, p.stateRoot]
  | _ => [p.parent]

end Profile

/-- The destination is absent or installed, and nothing stands in the way of an installation. -/
structure Sound (p : Profile) (w : World) : Prop where
  open_ : ∀ visit q mode content, q <+: p.pathOf visit → q ≠ [] → w q ≠ some (.file mode content)
  private_ : ∀ q ∈ p.required, ∀ mode, w q = some (.directory mode) → mode = 0o700
  destination : w p.target = none ∨ w p.target = some p.installed

/-- The call is the first to visit one of the required directories, creates it under a directory with
the set-group-ID bit, and is cut before its `fchmod`. -/
def SpoilsDirectory (cut : CutAt) (p : Profile) (w : World) : Prop :=
  ∃ visit, ∃ q ∈ p.required, q <+: p.pathOf visit ∧ (∀ path ∈ p.earlier visit, ¬q <+: path) ∧
    Unfinished cut visit q ∧ w q = none ∧ w.Inherits q

theorem target_not_prefix (apart : p.runs ≠ p.target) (visit : Visit) :
    ¬p.target <+: p.pathOf visit := by
  have above : ¬p.target <+: p.parent := fun part => by
    have length := part.length_le
    rw [Profile.target, List.length_append, List.length_singleton] at length
    omega
  cases visit with
  | stateRoot => exact p.apart
  | runs =>
      intro part
      rcases List.prefix_concat_iff.mp part with same | part
      · exact apart same.symm
      · exact p.apart part
  | first | existingBefore | installing | existingAfter => exact above

theorem pathOf_required (visit : Visit) : p.pathOf visit ∈ p.required := by
  cases visit <;> simp [Profile.pathOf, Profile.required]

theorem required_pathOf {q : Path} (listed : q ∈ p.required) : ∃ visit, q = p.pathOf visit := by
  simp only [Profile.required, List.mem_cons, List.not_mem_nil, or_false] at listed
  rcases listed with rfl | rfl | rfl
  · exact ⟨.first, rfl⟩
  · exact ⟨.stateRoot, rfl⟩
  · exact ⟨.runs, rfl⟩

theorem pathOf_ne_nil (visit : Visit) : p.pathOf visit ≠ [] := by
  cases visit with
  | stateRoot => exact p.stateRoot_ne
  | runs => exact List.append_ne_nil_of_right_ne_nil _ (List.cons_ne_nil _ _)
  | first | existingBefore | installing | existingAfter => exact p.parent_ne

theorem pathOf_depth (visit : Visit) : (p.pathOf visit).length ≤ _MAX_DIRECTORY_DEPTH := by
  cases visit with
  | stateRoot => exact Nat.le_of_succ_le p.stateRoot_depth
  | runs =>
      rw [Profile.pathOf, Profile.runs, List.length_append, List.length_singleton]
      exact p.stateRoot_depth
  | first | existingBefore | installing | existingAfter => exact p.parent_depth

/-- The file of the profile does not stand in the way. -/
theorem Sound.set (h : Sound p w) (apart : p.runs ≠ p.target) :
    Sound p (w.set p.target p.installed) := by
  refine ⟨fun visit q mode content part some_ => ?_, fun q listed mode => ?_, .inr set_same⟩
  · rw [set_other fun same : q = p.target => target_not_prefix apart visit (same ▸ part)]
    exact h.open_ visit q mode content part some_
  · obtain ⟨visit, rfl⟩ := required_pathOf listed
    rw [set_other fun same : p.pathOf visit = p.target =>
      target_not_prefix apart visit (same ▸ List.prefix_refl _)]
    exact h.private_ _ listed mode

theorem Sound.not_obstructed (h : Sound p w) (visit : Visit) : ¬Obstructed (p.pathOf visit) w := by
  rintro (⟨q, mode, content, part, some_, found⟩ | ⟨mode, found, other⟩)
  · exact h.open_ visit q mode content part some_ found
  · exact other (h.private_ _ (pathOf_required visit) mode found)

/-- A visit that spoils no directory leaves the world sound, wherever it is cut. -/
theorem Sound.grown (h : Sound p w) (apart : p.runs ≠ p.target)
    (grown : Grown cut visit (p.pathOf visit) w s)
    (whole : ∀ q ∈ p.required, q <+: p.pathOf visit → Unfinished cut visit q → w q = none →
      ¬w.Inherits q) : Sound p s ∧ s p.target = w p.target := by
  have target : s p.target = w p.target :=
    (grown p.target).resolve_right fun made => target_not_prefix apart visit made.1
  refine ⟨⟨fun visit' q mode content part some_ found => ?_, fun q listed mode found => ?_, ?_⟩,
    target⟩
  · rcases grown q with kept | ⟨-, -, -, made⟩
    · exact h.open_ visit' q mode content part some_ (kept ▸ found)
    · rcases made with made | ⟨-, -, _, made⟩ <;> exact nomatch made.symm.trans found
  · rcases grown q with kept | ⟨part, -, absent, made⟩
    · exact h.private_ q listed mode (kept ▸ found)
    · rcases made with made | ⟨unfinished, inherits, -⟩
      · cases made.symm.trans found
        rfl
      · exact absurd inherits (whole q listed part unfinished absent)
  · rw [target]
    exact h.destination

/-- What a call that has visited these paths has done to the world it found. -/
structure After (paths : List Path) (w s : World) : Prop where
  absent : ∀ q, q ≠ [] → s q = none → w q = none ∧ ∀ path ∈ paths, ¬q <+: path
  inherits : ∀ q, s.Inherits q → w.Inherits q

theorem After.nil : After [] w w := ⟨fun _ _ absent => ⟨absent, nofun⟩, fun _ => id⟩

theorem After.cons {paths : List Path} {s' : World} (h : After paths w s) (finished : Finished path s s')
    (standing : Standing path s') : After (path :: paths) w s' := by
  refine ⟨fun q some_ absent => ?_, fun q inherits => h.inherits q (finished.inherits inherits)⟩
  rcases finished q with kept | made
  · obtain ⟨before, others⟩ := h.absent q some_ (kept ▸ absent)
    refine ⟨before, fun path' listed part => ?_⟩
    rcases List.mem_cons.mp listed with rfl | listed
    · exact standing.2 q part some_ absent
    · exact others path' listed part
  · exact absurd (made.2.2.2.symm.trans absent) nofun

theorem wp_visit (visit : Visit) {paths : List Path} (sound : Sound p s) (after : After paths w s)
    (apart : p.runs ≠ p.target) (whole : ¬SpoilsDirectory cut p w)
    (listed : ∀ path ∈ p.earlier visit, path ∈ paths) :
    wp (ensurePrivateDirectory cut visit (p.pathOf visit))
      (fun _ s' => Sound p s' ∧ After (p.pathOf visit :: paths) w s' ∧ s' p.target = s p.target)
      (fun _ s' => Sound p s' ∧ cut ≠ none) (fun s' => Sound p s' ∧ cut ≠ none) s := by
  have unspoilt : ∀ q ∈ p.required, q <+: p.pathOf visit → Unfinished cut visit q → s q = none →
      ¬s.Inherits q := by
    intro q required part unfinished absent inherits
    obtain ⟨visit', rfl⟩ := required_pathOf required
    obtain ⟨before, others⟩ := after.absent _ (pathOf_ne_nil visit') absent
    exact whole ⟨visit, _, required, part, fun path earlier => others path (listed path earlier),
      unfinished, before, after.inherits _ inherits⟩
  refine wp_mono (wp_ensurePrivateDirectory (pathOf_ne_nil visit) (pathOf_depth visit)) ?_ ?_ ?_
  · rintro _ s' ⟨finished, standing⟩
    obtain ⟨sound', target⟩ := sound.grown apart (finished.grown : Grown cut _ _ _ _) unspoilt
    exact ⟨sound', after.cons finished standing, target⟩
  · rintro _ s' ⟨grown, cause⟩
    exact ⟨(sound.grown apart grown unspoilt).1,
      cause.resolve_right (sound.not_obstructed visit)⟩
  · exact fun s' ⟨grown, cut_⟩ => ⟨(sound.grown apart grown unspoilt).1, cut_⟩

/-- The call leaves its destination half done, or its directories. -/
def Spoilt (cut : CutAt) (transfers : Transfers) (p : Profile) (w : World) : Prop :=
  p.runs = p.target ∨ SpoilsDirectory cut p w ∨ (w p.target = none ∧ SpoilsFile cut transfers p)

section
variable {paths : List Path} (apart : p.runs ≠ p.target) (whole : ¬SpoilsDirectory cut p w)
include apart whole

theorem wp_provisionState (sound : Sound p s) (after : After paths w s)
    (listed : p.parent ∈ paths) :
    wp (provisionOrganizationState cut p)
      (fun _ s' => Sound p s' ∧ (∃ paths, p.parent ∈ paths ∧ After paths w s') ∧
        s' p.target = s p.target)
      (fun _ s' => Sound p s' ∧ cut ≠ none) (fun s' => Sound p s' ∧ cut ≠ none) s := by
  unfold provisionOrganizationState
  refine wp_bind.mpr (wp_mono (wp_visit .stateRoot sound after apart whole ?_) ?_
    (fun _ _ => id) fun _ => id)
  · intro path earlier
    rwa [List.mem_singleton.mp earlier]
  rintro _ s₁ ⟨sound, after, target₁⟩
  refine wp_mono (wp_visit .runs sound after apart whole ?_) ?_ (fun _ _ => id) fun _ => id
  · intro path earlier
    rcases List.mem_cons.mp earlier with rfl | earlier
    · exact List.mem_cons_of_mem _ listed
    · rw [List.mem_singleton.mp earlier]
      exact List.mem_cons_self
  rintro _ s₂ ⟨sound, after, target₂⟩
  exact ⟨sound, ⟨_, List.mem_cons_of_mem _ (List.mem_cons_of_mem _ listed), after⟩,
    target₂.trans target₁⟩

/-- An installed profile is found to be the same. -/
theorem wp_validateExisting (visit : Visit) (sound : Sound p s) (after : After paths w s)
    (listed : ∀ path ∈ p.earlier visit, path ∈ paths) (path : p.pathOf visit = p.parent)
    (installed : s p.target = some p.installed) :
    wp (validateExistingProfileFile cut visit transfers p)
      (fun _ s' => Sound p s' ∧ After (p.parent :: paths) w s' ∧ s' p.target = some p.installed)
      (fun _ s' => Sound p s' ∧ cut ≠ none) (fun s' => Sound p s' ∧ cut ≠ none) s := by
  have visited := wp_visit visit sound after apart whole listed
  unfold validateExistingProfileFile
  rw [path] at visited
  refine wp_bind.mpr (wp_mono visited ?_ (fun _ _ => id) fun _ => id)
  rintro _ s₁ ⟨sound, after, target⟩
  rw [installed] at target
  refine wp_bind.mpr (wp_quiet ?_ (fun _ cut_ => ⟨sound, cut_⟩) fun cut_ => ⟨sound, cut_⟩)
  refine wp_mono wp_compareExisting ?_ ?_ ?_
  · rintro _ s' ⟨rfl, -⟩
    exact ⟨sound, after, target⟩
  · rintro _ s' ⟨rfl, cause⟩
    exact ⟨sound, cause.resolve_right (not_not_intro target)⟩
  · rintro s' ⟨rfl, cut_⟩
    exact ⟨sound, cut_⟩

/-- The file is created, or found to be the same. -/
theorem wp_installPrivateFile (sound : Sound p s) (after : After paths w s)
    (listed : p.parent ∈ paths) (file : s p.target = none → ¬SpoilsFile cut transfers p) :
    wp (installPrivateFile cut transfers openMode p)
      (fun _ s' => Sound p s' ∧ s' p.target = some p.installed)
      (fun _ s' => Sound p s' ∧ cut ≠ none) (fun s' => Sound p s' ∧ cut ≠ none) s := by
  unfold installPrivateFile
  have visited := wp_visit .installing sound after apart whole (by
    intro path earlier
    rwa [List.mem_singleton.mp earlier])
  refine wp_bind.mpr (wp_mono visited ?_ (fun _ _ => id) fun _ => id)
  rintro _ s₁ ⟨sound, -, target⟩
  rw [← target] at file
  refine wp_bind.mpr (wp_quiet ?_ (fun _ cut_ => ⟨sound, cut_⟩) fun cut_ => ⟨sound, cut_⟩)
  unfold openExclusive
  refine wp_bind.mpr (wp_bind.mpr (wp_quiet ?_ (fun _ cut_ => ⟨sound, cut_⟩) fun cut_ => ⟨sound, cut_⟩))
  refine wp_bind.mpr (wp_get.mpr ?_)
  rcases sound.destination with absent | installed
  · rw [absent]
    refine wp_bind.mpr (wp_modify.mpr ?_)
    have complete := sound.set apart
    refine wp_bind.mpr (wp_mono (wp_fillFile (file absent) absent) ?_ ?_ ?_)
    · rintro _ s' rfl
      exact ⟨complete, set_same⟩
    · rintro _ s' ⟨rfl | rfl, cut_⟩
      · exact ⟨sound, cut_⟩
      · exact ⟨complete, cut_⟩
    · rintro s' ⟨rfl | rfl, cut_⟩
      · exact ⟨sound, cut_⟩
      · exact ⟨complete, cut_⟩
  · rw [installed]
    refine wp_bind.mpr (wp_mono wp_compareExisting ?_ ?_ ?_)
    · rintro _ s' ⟨rfl, -⟩
      exact ⟨sound, installed⟩
    · rintro _ s' ⟨rfl, cause⟩
      exact ⟨sound, cause.resolve_right (not_not_intro installed)⟩
    · rintro s' ⟨rfl, cut_⟩
      exact ⟨sound, cut_⟩

end

/-- A call that spoils nothing installs the profile, or is cut and leaves a sound world. -/
theorem wp_install (sound : Sound p w) (whole : ¬Spoilt cut transfers p w) :
    wp (installOrganizationProfile cut transfers openMode p)
      (fun _ s => Sound p s ∧ s p.target = some p.installed)
      (fun _ s => Sound p s ∧ cut ≠ none) (fun s => Sound p s ∧ cut ≠ none) w := by
  have apart : p.runs ≠ p.target := fun same => whole (.inl same)
  have directories : ¬SpoilsDirectory cut p w := fun spoils => whole (.inr (.inl spoils))
  unfold installOrganizationProfile
  refine wp_bind.mpr (wp_mono (wp_visit .first sound After.nil apart directories nofun)
    ?_ (fun _ _ => id) fun _ => id)
  rintro _ s ⟨sound, after, target⟩
  have file : s p.target = none → ¬SpoilsFile cut transfers p := fun absent spoils =>
    whole (.inr (.inr ⟨target ▸ absent, spoils⟩))
  have missing : wp (provision cut transfers openMode p false)
      (fun _ s => Sound p s ∧ s p.target = some p.installed)
      (fun _ s => Sound p s ∧ cut ≠ none) (fun s => Sound p s ∧ cut ≠ none) s := by
    refine wp_bind.mpr (wp_mono (wp_provisionState apart directories sound after
      List.mem_cons_self) ?_ (fun _ _ => id) fun _ => id)
    rintro _ s₁ ⟨sound₁, ⟨paths, listed, after₁⟩, target₁⟩
    exact wp_installPrivateFile apart directories sound₁ after₁ listed (target₁ ▸ file)
  unfold lexists
  refine wp_bind.mpr (wp_handle.mpr (wp_bind.mpr (wp_stepAt ?_ (fun _ _ => missing)
    fun crashed => ⟨sound, crashed ▸ nofun⟩)))
  refine wp_bind.mpr (wp_get.mpr (wp_pure.mpr ?_))
  rcases sound.destination with absent | installed
  · rw [absent]
    exact missing
  rw [installed]
  have earlier {path : Path} (listed : path ∈ [p.parent]) {paths : List Path}
      (visited : p.parent ∈ paths) : path ∈ paths := by rwa [List.mem_singleton.mp listed]
  refine wp_bind.mpr (wp_mono (wp_validateExisting apart directories .existingBefore
    sound after (fun _ listed => earlier listed List.mem_cons_self) rfl installed) ?_
    (fun _ _ => id) fun _ => id)
  rintro _ s₁ ⟨sound₁, after₁, installed₁⟩
  refine wp_bind.mpr (wp_mono (wp_provisionState apart directories sound₁ after₁
    List.mem_cons_self) ?_ (fun _ _ => id) fun _ => id)
  rintro _ s₂ ⟨sound₂, ⟨paths, visited, after₂⟩, target₂⟩
  rw [installed₁] at target₂
  refine wp_bind.mpr (wp_mono (wp_validateExisting apart directories .existingAfter
    sound₂ after₂ (fun _ listed => earlier listed visited) rfl target₂) ?_
    (fun _ _ => id) fun _ => id)
  rintro _ s₃ ⟨sound₃, -, installed₃⟩
  exact ⟨sound₃, installed₃⟩

/-! ## Other bytes -/

theorem Grown.kept {q : Path} (h : Grown cut visit path w s) (present : w q ≠ none) : s q = w q :=
  (h q).resolve_right fun made => present made.2.2.1

/-- Another profile for the same destination leaves a private file that is there. -/
theorem wp_install_other {content : Bytes} (found : w p.target = some (.file 0o600 content))
    (other : content ≠ p.payload) :
    wp (installOrganizationProfile cut transfers openMode p) (fun _ _ => False)
      (fun _ s => s p.target = w p.target) (fun s => s p.target = w p.target) w := by
  have visited (visit : Visit) {s : World} (same : s p.target = w p.target)
      {Q : Unit → World → Prop} (next_ : ∀ s', s' p.target = w p.target → Q () s') :
      wp (ensurePrivateDirectory cut visit (p.pathOf visit)) Q
        (fun _ s => s p.target = w p.target) (fun s => s p.target = w p.target) s := by
    have present : s p.target ≠ none := by
      rw [same, found]
      exact Option.some_ne_none _
    refine wp_mono (wp_ensurePrivateDirectory (pathOf_ne_nil visit) (pathOf_depth visit)) ?_ ?_ ?_
    · rintro _ s' ⟨finished, -⟩
      exact next_ s' (((finished.grown : Grown cut visit _ _ _).kept present).trans same)
    · rintro _ s' ⟨grown, -⟩
      exact (grown.kept present).trans same
    · exact fun s' ⟨grown, _⟩ => (grown.kept present).trans same
  have quiet {s : World} {point : Point} {Q : Unit → World → Prop} (same : s p.target = w p.target)
      (passes : Q () s) : wp (stepAt cut point) Q (fun _ s => s p.target = w p.target)
        (fun s => s p.target = w p.target) s := wp_quiet passes (fun _ _ => same) fun _ => same
  have refuted (visit : Visit) {s : World} (same : s p.target = w p.target)
      {Q : Unit → World → Prop} : wp (compareExisting cut visit transfers p) Q
        (fun _ s => s p.target = w p.target) (fun s => s p.target = w p.target) s := by
    refine wp_mono wp_compareExisting ?_ ?_ ?_
    · rintro _ s' ⟨-, installed⟩
      rw [same, found] at installed
      cases installed
      exact absurd rfl other
    · rintro _ s' ⟨rfl, -⟩
      exact same
    · rintro s' ⟨rfl, -⟩
      exact same
  unfold installOrganizationProfile
  refine wp_bind.mpr (visited .first rfl fun s same => ?_)
  have missing : wp (provision cut transfers openMode p false) (fun _ _ => False)
      (fun _ s => s p.target = w p.target) (fun s => s p.target = w p.target) s := by
    refine wp_bind.mpr (wp_bind.mpr (visited .stateRoot same fun s same => ?_))
    refine visited .runs same fun s same => wp_bind.mpr (visited .installing same fun s same => ?_)
    refine wp_bind.mpr (quiet same (wp_bind.mpr (wp_bind.mpr (quiet same ?_))))
    refine wp_bind.mpr (wp_get.mpr ?_)
    have here : s p.target = some (.file 0o600 content) := same.trans found
    rw [here]
    exact wp_bind.mpr (refuted .installing same)
  refine wp_bind.mpr (wp_handle.mpr (wp_bind.mpr (wp_stepAt ?_ (fun _ _ => missing) fun _ => same)))
  refine wp_bind.mpr (wp_get.mpr (wp_pure.mpr ?_))
  have here : s p.target = some (.file 0o600 content) := same.trans found
  rw [here]
  refine wp_bind.mpr (wp_bind.mpr (visited .existingBefore same fun s same => ?_))
  exact wp_bind.mpr (quiet same (refuted .existingBefore same))

/-! ## Runs -/

/-- A call, with where it is cut. -/
structure Call where
  cut : CutAt
  transfers : Transfers
  openMode : Nat

/-- What a call of the profile leaves, and how it ends. -/
def Call.run (call : Call) (p : Profile) (w : World) : World × Ending Exn Bool :=
  installOrganizationProfile call.cut call.transfers call.openMode p w

/-- The world after calls one after the other. -/
def runCalls (p : Profile) : List Call → World → World
  | [], w => w
  | call :: rest, w => runCalls p rest (call.run p w).1

/-- No call is spoilt, each in the world it finds. -/
def Unspoilt (p : Profile) : List Call → World → Prop
  | [], _ => True
  | call :: rest, w => ¬Spoilt call.cut call.transfers p w ∧ Unspoilt p rest (call.run p w).1

theorem sound_run {call : Call} (sound : Sound p w)
    (whole : ¬Spoilt call.cut call.transfers p w) : Sound p (call.run p w).1 := by
  have stopped : wp (installOrganizationProfile call.cut call.transfers call.openMode p) _ _ _ w :=
    wp_install sound whole
  unfold wp at stopped
  unfold Call.run
  rcases ended : installOrganizationProfile call.cut call.transfers call.openMode p w with
    ⟨s, created | raised | _⟩
  all_goals rw [ended] at stopped
  all_goals exact stopped.1

theorem sound_runCalls : ∀ {calls : List Call} {w : World}, Sound p w → Unspoilt p calls w →
    Sound p (runCalls p calls w)
  | [], _, sound, _ => sound
  | call :: rest, w, sound, unspoilt => by
      have next_ : Sound p (call.run p w).1 := sound_run sound unspoilt.1
      show Sound p (runCalls p rest (call.run p w).1)
      exact sound_runCalls next_ unspoilt.2

theorem run_uncut {call : Call} (sound : Sound p w) (apart : p.runs ≠ p.target)
    (uncut : call.cut = none) : ∃ s created, call.run p w = (s, .ok created) ∧
      s p.target = some p.installed := by
  have whole : ¬Spoilt call.cut call.transfers p w := by
    rw [uncut]
    rintro (same | ⟨_, _, _, _, _, ⟨_, _, none_, _⟩, _⟩ | ⟨_, ⟨_, none_ | none_⟩ | ⟨_, none_, _⟩⟩)
    · exact apart same
    all_goals cases none_
  have stopped : wp (installOrganizationProfile call.cut call.transfers call.openMode p) _ _ _ w :=
    wp_install sound whole
  unfold wp at stopped
  unfold Call.run
  rcases ended : installOrganizationProfile call.cut call.transfers call.openMode p w with
    ⟨s, created | raised | _⟩
  all_goals rw [ended] at stopped
  · exact ⟨s, created, rfl, stopped.2⟩
  · exact absurd uncut stopped.2
  · exact absurd uncut stopped.2

theorem run_other {call : Call} {content : Bytes}
    (found : w p.target = some (.file 0o600 content)) (other : content ≠ p.payload) :
    (call.run p w).1 p.target = w p.target := by
  have stopped : wp (installOrganizationProfile call.cut call.transfers call.openMode p) _ _ _ w :=
    wp_install_other found other
  unfold wp at stopped
  unfold Call.run
  rcases ended : installOrganizationProfile call.cut call.transfers call.openMode p w with
    ⟨s, created | raised | _⟩
  all_goals rw [ended] at stopped
  · exact stopped.elim
  · exact stopped
  · exact stopped

/-- After any number of calls that spoil nothing the destination is absent or installed, and a call
that is not cut installs it. Another profile for the same destination never changes an installed
one, wherever it is cut. -/
theorem installation_idempotent (p : Profile) :
    (∀ calls w, Sound p w → Unspoilt p calls w →
      Sound p (runCalls p calls w) ∧
      ∀ call : Call, p.runs ≠ p.target → call.cut = none →
        ∃ s created, call.run p (runCalls p calls w) = (s, .ok created) ∧
          s p.target = some p.installed) ∧
    ∀ (other : Profile) (call : Call) w, other.target = p.target → other.payload ≠ p.payload →
      w p.target = some p.installed → (call.run other w).1 p.target = some p.installed := by
  refine ⟨fun calls w sound unspoilt => ?_, fun other call w same different installed => ?_⟩
  · have left := sound_runCalls sound unspoilt
    exact ⟨left, fun call apart uncut => run_uncut left apart uncut⟩
  · have found : w other.target = some (.file 0o600 p.payload) := same ▸ installed
    have kept : (call.run other w).1 other.target = w other.target :=
      run_other found fun equal => different equal.symm
    rw [same] at kept
    exact kept.trans installed

/-! ## An empty profile -/

namespace Samples

def sampleProfile : Profile where
  payload := [115]
  bounded := by decide
  nonempty := by decide
  parent := ["etc"]
  name := "organization.toml"
  stateRoot := ["state"]
  parent_ne := by decide
  stateRoot_ne := by decide
  parent_depth := by decide
  stateRoot_depth := by decide
  apart := by decide

/-- The directories are there, and nothing else. -/
def provisioned : World := fun path =>
  if path ∈ [["etc"], ["state"], ["state", "runs"]] then some (.directory 0o700)
  else if path = [] then some (.directory 0o755) else none

/-- A crash before the first write. -/
def crashedCall : Call :=
  ⟨some (.file (.write 0), .crashes), ⟨fun _ => 1, fun _ => Nat.one_pos⟩, 0o600⟩

def uncutCall : Call := ⟨none, ⟨fun _ => 1, fun _ => Nat.one_pos⟩, 0o600⟩

theorem provisioned_sound : Sound sampleProfile provisioned := by
  refine ⟨fun visit q mode content _ _ => ?_, fun q listed mode found => ?_, .inl (by decide)⟩
  · unfold provisioned
    split_ifs <;> nofun
  · have private_ : q ∈ [["etc"], ["state"], ["state", "runs"]] := listed
    unfold provisioned at found
    rw [if_pos private_] at found
    cases found
    rfl

end Samples

theorem crash_leaves_empty_profile :
    ¬∀ (p : Profile) (w : World) (call next : Call), Sound p w → p.runs ≠ p.target →
      next.cut = none → ∃ s created, next.run p (call.run p w).1 = (s, .ok created) := by
  intro claimed
  obtain ⟨s, created, ended⟩ := claimed Samples.sampleProfile Samples.provisioned
    Samples.crashedCall Samples.uncutCall Samples.provisioned_sound (by decide) rfl
  have refused : (Samples.uncutCall.run Samples.sampleProfile
      (Samples.crashedCall.run Samples.sampleProfile Samples.provisioned).1).2 =
        .raised differentBytes := by decide +kernel
  rw [ended] at refused
  cases refused

end MasterAgent.Operating
