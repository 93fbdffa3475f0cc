import Mathlib.Data.List.Nodup
import Mathlib.Data.List.Perm.Basic

/-!
# Renaming by aliases

A mapping is filled from keyed entries, one after another. A key may be the alias of another one:
its value is stored under that name, as long as no earlier entry has taken it.

Results:

1. `run_ok_iff`: which sequences of entries are accepted, and what they make;
2. `orders_agree_iff`: when every order of the same entries makes the same mapping.
-/

namespace Base.Aliases

section
variable {K V W ε : Type} [DecidableEq K] (aliasOf : K → Option K)
  (accept : K → K → V → Except ε (Option W)) (duplicate : K → ε)

/-- Where the value of `key` goes when the names `taken` are in use. -/
def settle (taken : List K) (key : K) : K :=
  match aliasOf key with
  | some target => if target ∈ taken then key else target
  | none => key

/-- What becomes of the mapping: a value that is admitted is stored unless its place is taken, and an
entry that is admitted without one is left out. -/
def store (made : List (K × W)) (place : K) : Except ε (Option W) → Except ε (List (K × W))
  | .error e => .error e
  | .ok none => .ok made
  | .ok (some value) =>
    if place ∈ made.map Prod.fst then .error (duplicate place) else .ok (made ++ [(place, value)])

/-- One turn of the loop. -/
def step (made : List (K × W)) (entry : K × V) : Except ε (List (K × W)) :=
  let place := settle aliasOf (made.map Prod.fst) entry.1
  store duplicate made place (accept entry.1 place entry.2)

def run (entries : List (K × V)) : Except ε (List (K × W)) :=
  entries.foldlM (step aliasOf accept duplicate) []

/-- A name has at most one alias and is none itself, and a value stored under it is not left out. -/
structure Lawful : Prop where
  inj : ∀ {key other target}, aliasOf key = some target → aliasOf other = some target → key = other
  proper : ∀ {key target}, aliasOf key = some target → aliasOf target = none
  stored : ∀ {key target}, aliasOf key = some target → ∀ from_ value, accept from_ target value ≠ .ok none

/-! ## What a sequence of entries makes -/

/-- What an entry contributes, its own name being in use if it is a key of the sequence. -/
def contribution (keys : List K) (entry : K × V) : Option (K × W) :=
  match accept entry.1 (settle aliasOf keys entry.1) entry.2 with
  | .ok (some value) => some (settle aliasOf keys entry.1, value)
  | _ => none

def kept (entries : List (K × V)) : List (K × W) :=
  entries.filterMap (contribution aliasOf accept (entries.map Prod.fst))

/-- No entry is refused for itself. -/
def Admits (entries : List (K × V)) : Prop :=
  ∀ entry ∈ entries,
    ∃ value, accept entry.1 (settle aliasOf (entries.map Prod.fst) entry.1) entry.2 = .ok value

/-- No alias stands before the name that it is an alias of. -/
def TargetsFirst (entries : List (K × V)) : Prop :=
  ∀ front entry back, entries = front ++ entry :: back →
    ∀ target, aliasOf entry.1 = some target → target ∉ back.map Prod.fst

/-- Some alias stands beside the name that it is an alias of. -/
def Contested (entries : List (K × V)) : Prop :=
  ∃ entry ∈ entries, ∃ target, aliasOf entry.1 = some target ∧ target ∈ entries.map Prod.fst

variable {aliasOf accept duplicate} {entries : List (K × V)}

theorem settle_of_none {key : K} (plain : aliasOf key = none) (taken : List K) :
    settle aliasOf taken key = key := by
  rw [settle, plain]

theorem settle_of_taken {key target : K} {taken : List K} (aliased : aliasOf key = some target)
    (used : target ∈ taken) : settle aliasOf taken key = key := by
  rw [settle, aliased]
  exact if_pos used

theorem settle_of_free {key target : K} {taken : List K} (aliased : aliasOf key = some target)
    (free : target ∉ taken) : settle aliasOf taken key = target := by
  rw [settle, aliased]
  exact if_neg free

theorem settle_congr {taken taken' : List K} (same : ∀ key, key ∈ taken ↔ key ∈ taken') (key : K) :
    settle aliasOf taken key = settle aliasOf taken' key := by
  rw [settle, settle]
  cases aliasOf key with
  | none => rfl
  | some target => simp only [same target]

/-- Entries with different keys go to different places. -/
theorem settle_inj (lawful : Lawful aliasOf accept) {keys : List K} {key other : K}
    (member : key ∈ keys) (member' : other ∈ keys)
    (same : settle aliasOf keys key = settle aliasOf keys other) : key = other := by
  -- An alias that is used goes to a place that is no key of the sequence.
  have moved {key : K} (member : key ∈ keys) :
      settle aliasOf keys key = key ∨
        aliasOf key = some (settle aliasOf keys key) ∧ settle aliasOf keys key ∉ keys := by
    cases aliased : aliasOf key with
    | none => exact .inl (settle_of_none aliased keys)
    | some target =>
      by_cases used : target ∈ keys
      · exact .inl (settle_of_taken aliased used)
      · rw [settle_of_free aliased used]
        exact .inr ⟨rfl, used⟩
  rcases moved member with here | ⟨aliased, absent⟩ <;>
    rcases moved member' with here' | ⟨aliased', absent'⟩
  · rw [← here, same, here']
  · exact absurd (by rwa [← same, here]) absent'
  · exact absurd (by rwa [same, here']) absent
  · exact lawful.inj aliased (same ▸ aliased')

/-! ## The loop -/

/-- An entry is not refused for itself. -/
abbrev Admitted (aliasOf : K → Option K) (accept : K → K → V → Except ε (Option W)) (keys : List K)
    (entry : K × V) : Prop :=
  ∃ value, accept entry.1 (settle aliasOf keys entry.1) entry.2 = .ok value

/-- All that a turn can do. -/
theorem step_ok_iff {made made' : List (K × W)} {entry : K × V} :
    step aliasOf accept duplicate made entry = .ok made' ↔
      (accept entry.1 (settle aliasOf (made.map Prod.fst) entry.1) entry.2 = .ok none ∧ made' = made) ∨
      ∃ value, accept entry.1 (settle aliasOf (made.map Prod.fst) entry.1) entry.2 = .ok (some value) ∧
        settle aliasOf (made.map Prod.fst) entry.1 ∉ made.map Prod.fst ∧
        made' = made ++ [(settle aliasOf (made.map Prod.fst) entry.1, value)] := by
  rw [step]
  cases accept entry.1 (settle aliasOf (made.map Prod.fst) entry.1) entry.2 with
  | error e => simp [store]
  | ok outcome =>
    cases outcome with
    | none => simp [store, eq_comm]
    | some value =>
      by_cases taken : settle aliasOf (made.map Prod.fst) entry.1 ∈ made.map Prod.fst
      · simp only [store, if_pos taken]
        simp [taken]
      · simp only [store, if_neg taken]
        simp [taken, eq_comm]

theorem foldlM_cons_ok_iff {made result : List (K × W)} {entry : K × V} {rest : List (K × V)} :
    (entry :: rest).foldlM (step aliasOf accept duplicate) made = .ok result ↔
      ∃ made', step aliasOf accept duplicate made entry = .ok made' ∧
        rest.foldlM (step aliasOf accept duplicate) made' = .ok result := by
  rw [List.foldlM_cons]
  cases step aliasOf accept duplicate made entry with
  | error e => simp [bind, Except.bind]
  | ok made' => simp [bind, Except.bind]

/-- A name that an alias has taken cannot be stored later. -/
theorem refused_of_taken (lawful : Lawful aliasOf accept) {other target : K}
    (aliased : aliasOf other = some target) :
    ∀ {rest : List (K × V)} {made : List (K × W)}, target ∈ made.map Prod.fst →
      target ∈ rest.map Prod.fst → ∀ result, rest.foldlM (step aliasOf accept duplicate) made ≠ .ok result
  | entry :: rest, made, taken, later, result, accepted => by
    obtain ⟨made', stepped, continued⟩ := foldlM_cons_ok_iff.mp accepted
    rcases List.mem_cons.mp later with here | later
    · have own : settle aliasOf (made.map Prod.fst) entry.1 = target := by
        rw [← here, settle_of_none (lawful.proper aliased)]
      rw [step_ok_iff, own] at stepped
      rcases stepped with ⟨skipped, -⟩ | ⟨value, -, free, -⟩
      · exact lawful.stored aliased _ _ skipped
      · exact free taken
    · refine refused_of_taken lawful aliased ?_ later result continued
      rcases step_ok_iff.mp stepped with ⟨-, rfl⟩ | ⟨value, -, -, rfl⟩
      · exact taken
      · rw [List.map_append]
        exact List.mem_append_left _ taken

omit [DecidableEq K] in
theorem targetsFirst_nil : TargetsFirst aliasOf ([] : List (K × V)) :=
  fun front _ _ split => absurd split (by cases front <;> exact nofun)

omit [DecidableEq K] in
theorem targetsFirst_cons {entry : K × V} {rest : List (K × V)} :
    TargetsFirst aliasOf (entry :: rest) ↔
      (∀ target, aliasOf entry.1 = some target → target ∉ rest.map Prod.fst) ∧
        TargetsFirst aliasOf rest := by
  constructor
  · exact fun first => ⟨first [] entry rest rfl, fun front other back split =>
      first (entry :: front) other back (congrArg (entry :: ·) split)⟩
  · rintro ⟨here, later⟩ front other back split
    cases front with
    | nil =>
      cases split
      exact here
    | cons head front =>
      cases split
      exact later front other back rfl

section
variable {front rest : List (K × V)} {keys : List K}

theorem mem_contributions {name : K} :
    name ∈ (front.filterMap (contribution aliasOf accept keys)).map Prod.fst ↔
      ∃ entry ∈ front, settle aliasOf keys entry.1 = name ∧
        ∃ value, accept entry.1 name entry.2 = .ok (some value) := by
  simp only [List.mem_map, List.mem_filterMap, contribution]
  constructor
  · rintro ⟨⟨name, value⟩, ⟨entry, member, made⟩, rfl⟩
    split at made
    · rename_i value admitted
      cases made
      exact ⟨entry, member, rfl, value, admitted⟩
    · cases made
  · rintro ⟨entry, member, rfl, value, admitted⟩
    exact ⟨(settle aliasOf keys entry.1, value), ⟨entry, member, by rw [admitted]⟩, rfl⟩

/-- A name that aliases ask for is taken exactly when its own entry has come. -/
theorem target_taken_iff (lawful : Lawful aliasOf accept) {key target : K}
    (aliased : aliasOf key = some target) (fresh : key ∉ front.map Prod.fst)
    (admitted : ∀ entry ∈ front, Admitted aliasOf accept keys entry) :
    target ∈ (front.filterMap (contribution aliasOf accept keys)).map Prod.fst ↔
      target ∈ front.map Prod.fst := by
  rw [mem_contributions]
  constructor
  · rintro ⟨entry, member, place, -⟩
    rw [settle] at place
    split at place
    · rename_i other own
      split at place
      · exact place ▸ List.mem_map_of_mem member
      · exact absurd (lawful.inj own (place ▸ aliased) ▸ List.mem_map_of_mem member) fresh
    · exact place ▸ List.mem_map_of_mem member
  · intro listed
    obtain ⟨entry, member, rfl⟩ := List.mem_map.mp listed
    have place := settle_of_none (lawful.proper aliased) keys
    obtain ⟨outcome, ran⟩ := admitted entry member
    rw [place] at ran
    cases outcome with
    | none => exact absurd ran (lawful.stored aliased _ _)
    | some value => exact ⟨entry, member, place, value, ran⟩

/-- The place of a later entry is free. -/
theorem place_free (lawful : Lawful aliasOf accept) {entry : K × V}
    (covered : front.map Prod.fst ⊆ keys) (listed : entry.1 ∈ keys)
    (fresh : entry.1 ∉ front.map Prod.fst) :
    settle aliasOf keys entry.1 ∉
      (front.filterMap (contribution aliasOf accept keys)).map Prod.fst := by
  rw [mem_contributions]
  rintro ⟨other, member, same, -⟩
  have inside := List.mem_map_of_mem (f := Prod.fst) member
  exact fresh (settle_inj lawful (covered inside) listed same ▸ inside)

theorem foldlM_ok_iff (lawful : Lawful aliasOf accept) {result : List (K × W)} :
    ∀ {rest front : List (K × V)}, ((front ++ rest).map Prod.fst).Nodup →
    (∀ entry ∈ front, Admitted aliasOf accept ((front ++ rest).map Prod.fst) entry) →
    (rest.foldlM (step aliasOf accept duplicate)
        (front.filterMap (contribution aliasOf accept ((front ++ rest).map Prod.fst))) = .ok result ↔
      (∀ entry ∈ rest, Admitted aliasOf accept ((front ++ rest).map Prod.fst) entry) ∧
        TargetsFirst aliasOf rest ∧ result = kept aliasOf accept (front ++ rest))
  | [], front, _, _ => by
    simp [kept, targetsFirst_nil, eq_comm, pure, Except.pure]
  | entry :: rest, front, distinct, admitted => by
    have moved : front ++ entry :: rest = front ++ [entry] ++ rest := by simp
    have listed : entry.1 ∈ (front ++ entry :: rest).map Prod.fst :=
      List.mem_map_of_mem (List.mem_append_right _ List.mem_cons_self)
    have covered : front.map Prod.fst ⊆ (front ++ entry :: rest).map Prod.fst := by
      rw [List.map_append]
      exact List.subset_append_left _ _
    have parts := distinct
    rw [List.map_append, List.nodup_append] at parts
    obtain ⟨-, -, apart⟩ := parts
    have fresh : entry.1 ∉ front.map Prod.fst := fun early =>
      apart _ early _ (List.mem_map_of_mem List.mem_cons_self) rfl
    have free := @place_free _ _ _ _ _ _ _ _ _ lawful entry covered listed fresh
    have ih := @foldlM_ok_iff lawful result rest (front ++ [entry])
    rw [← moved, List.filterMap_append] at ih
    generalize whole : (front ++ entry :: rest).map Prod.fst = keys at *
    rw [foldlM_cons_ok_iff, targetsFirst_cons, List.forall_mem_cons]
    by_cases late : ∃ target, aliasOf entry.1 = some target ∧ target ∈ rest.map Prod.fst
    · -- The alias takes the place of an entry that is still to come.
      obtain ⟨target, aliased, later⟩ := late
      have open_ : target ∉
          (front.filterMap (contribution aliasOf accept keys)).map Prod.fst := by
        rw [target_taken_iff lawful aliased fresh admitted]
        exact fun early => apart _ early _ (List.mem_map.mpr
          (by obtain ⟨e, m, same⟩ := List.mem_map.mp later; exact ⟨e, List.mem_cons_of_mem _ m, same⟩)) rfl
      refine ⟨?_, fun ⟨_, first, _⟩ => absurd later (first.1 target aliased)⟩
      rintro ⟨made, stepped, continued⟩
      rw [step_ok_iff, settle_of_free aliased open_] at stepped
      rcases stepped with ⟨skipped, -⟩ | ⟨value, -, -, rfl⟩
      · exact absurd skipped (lawful.stored aliased _ _)
      · refine absurd continued (refused_of_taken lawful aliased ?_ later result)
        rw [List.map_append]
        exact List.mem_append_right _ List.mem_cons_self
    · have same : settle aliasOf
          ((front.filterMap (contribution aliasOf accept keys)).map Prod.fst) entry.1 =
          settle aliasOf keys entry.1 := by
        cases aliased : aliasOf entry.1 with
        | none => rw [settle_of_none aliased, settle_of_none aliased]
        | some target =>
          have taken := target_taken_iff lawful aliased fresh admitted
          have other : target ≠ entry.1 := fun own => by
            rw [← own, lawful.proper aliased] at aliased
            cases aliased
          by_cases early : target ∈ front.map Prod.fst
          · rw [settle_of_taken aliased (taken.mpr early), settle_of_taken aliased (covered early)]
          · have absent : target ∉ keys := by
              rw [← whole, List.map_append, List.map_cons, List.mem_append, List.mem_cons]
              rintro (here | here | here)
              · exact early here
              · exact other here
              · exact late ⟨target, aliased, here⟩
            rw [settle_of_free aliased (mt taken.mp early), settle_of_free aliased absent]
      have extended (admits : Admitted aliasOf accept keys entry) :
          ∀ e ∈ front ++ [entry], Admitted aliasOf accept keys e :=
        List.forall_mem_append.mpr ⟨admitted, List.forall_mem_singleton.mpr admits⟩
      constructor
      · rintro ⟨made, stepped, continued⟩
        rw [step_ok_iff, same] at stepped
        obtain ⟨admits, rfl⟩ : Admitted aliasOf accept keys entry ∧
            made = front.filterMap (contribution aliasOf accept keys) ++
              [entry].filterMap (contribution aliasOf accept keys) := by
          rcases stepped with ⟨skipped, rfl⟩ | ⟨value, stored, -, rfl⟩
          · exact ⟨⟨_, skipped⟩, by simp [contribution, skipped]⟩
          · exact ⟨⟨_, stored⟩, by simp [contribution, stored]⟩
        obtain ⟨all, first, made⟩ := (ih distinct (extended admits)).mp continued
        exact ⟨⟨admits, all⟩, ⟨fun target aliased later => late ⟨target, aliased, later⟩, first⟩, made⟩
      · rintro ⟨⟨admits, all⟩, ⟨-, first⟩, made⟩
        refine ⟨_, ?_, (ih distinct (extended admits)).mpr ⟨all, first, made⟩⟩
        rw [step_ok_iff, same]
        obtain ⟨outcome, ran⟩ := admits
        cases outcome with
        | none => exact .inl ⟨ran, by simp [contribution, ran]⟩
        | some value => exact .inr ⟨value, ran, free, by simp [contribution, ran]⟩

end

/-- Which entries are accepted, and what they make. -/
theorem run_ok_iff (lawful : Lawful aliasOf accept) (distinct : (entries.map Prod.fst).Nodup)
    {result : List (K × W)} : run aliasOf accept duplicate entries = .ok result ↔
      Admits aliasOf accept entries ∧ TargetsFirst aliasOf entries ∧
        result = kept aliasOf accept entries :=
  @foldlM_ok_iff _ _ _ _ _ _ _ _ lawful _ _ [] distinct (fun _ none => absurd none List.not_mem_nil)

theorem contributions_sublist (keys : List K) : ∀ entries : List (K × V),
    ((entries.filterMap (contribution aliasOf accept keys)).map Prod.fst).Sublist
      (entries.map fun entry => settle aliasOf keys entry.1)
  | [] => .slnil
  | entry :: entries => by
    rw [List.filterMap_cons, List.map_cons]
    split
    · exact (contributions_sublist keys entries).cons _
    · rename_i made contributed
      have named : made.1 = settle aliasOf keys entry.1 := by
        rw [contribution] at contributed
        split at contributed <;> cases contributed
        rfl
      rw [List.map_cons, named]
      exact (contributions_sublist keys entries).cons_cons _

/-- What is kept has different names. -/
theorem kept_nodup (lawful : Lawful aliasOf accept) (distinct : (entries.map Prod.fst).Nodup) :
    ((kept aliasOf accept entries).map Prod.fst).Nodup := by
  refine (contributions_sublist _ entries).nodup ?_
  have places : (entries.map fun entry => settle aliasOf (entries.map Prod.fst) entry.1) =
      (entries.map Prod.fst).map (settle aliasOf (entries.map Prod.fst)) := by
    rw [List.map_map]
    rfl
  rw [places]
  exact distinct.map_on fun _ member _ member' same => settle_inj lawful member member' same

/-! ## Other orders -/

section
variable {entries' : List (K × V)} (perm : entries.Perm entries')
include perm

omit [DecidableEq K] in
theorem keys_perm (key : K) : key ∈ entries.map Prod.fst ↔ key ∈ entries'.map Prod.fst :=
  (perm.map Prod.fst).mem_iff

theorem admits_perm : Admits aliasOf accept entries ↔ Admits aliasOf accept entries' := by
  simp only [Admits, settle_congr (keys_perm perm), perm.mem_iff]

theorem kept_perm : (kept aliasOf accept entries).Perm (kept aliasOf accept entries') := by
  have same : contribution aliasOf accept (V := V) (entries.map Prod.fst) =
      contribution aliasOf accept (entries'.map Prod.fst) := by
    funext entry
    rw [contribution, contribution, settle_congr (keys_perm perm)]
  rw [kept, kept, same]
  exact perm.filterMap _

omit [DecidableEq K] in
theorem contested_perm : Contested aliasOf entries ↔ Contested aliasOf entries' := by
  simp only [Contested, keys_perm perm, perm.mem_iff]

end

omit [DecidableEq K] in
theorem targetsFirst_of_uncontested (free : ¬ Contested aliasOf entries) :
    TargetsFirst aliasOf entries := by
  rintro front entry back rfl target aliased later
  refine free ⟨entry, List.mem_append_right _ List.mem_cons_self, target, aliased, ?_⟩
  rw [List.map_append]
  exact List.mem_append_right _ (List.mem_cons_of_mem _ later)

omit [DecidableEq K] in
/-- Of an order and its reverse, one has an alias before its name. -/
theorem uncontested_of_reverse (lawful : Lawful aliasOf accept)
    (first : TargetsFirst aliasOf entries) (last : TargetsFirst aliasOf entries.reverse) :
    ¬ Contested aliasOf entries := by
  rintro ⟨entry, member, target, aliased, listed⟩
  obtain ⟨front, back, rfl⟩ := List.append_of_mem member
  rw [List.map_append, List.map_cons, List.mem_append, List.mem_cons] at listed
  rcases listed with early | own | later
  · refine last back.reverse entry front.reverse (by simp) target aliased ?_
    rwa [List.map_reverse, List.mem_reverse]
  · rw [← own, lawful.proper (own ▸ aliased : aliasOf target = some target)] at aliased
    cases aliased
  · exact first front entry back rfl target aliased later

/-- The same mapping, its entries in whatever order, or an exception in both cases. -/
def Agree : Except ε (List (K × W)) → Except ε (List (K × W)) → Prop
  | .ok made, .ok made' => made.Perm made'
  | .error _, .error _ => True
  | _, _ => False

/-- Documents that arrange the same entries in all orders of a family are read alike exactly when
those that could be accepted have no alias beside its name. -/
theorem orders_agree_iff {D : Type} {parse : D → Except ε (List (K × W))} {arranged : D → List (K × V)}
    {orders : D → Prop} {fit : Prop} (lawful : Lawful aliasOf accept)
    (spec : ∀ d, orders d → ∀ result, parse d = .ok result ↔
      fit ∧ TargetsFirst aliasOf (arranged d) ∧ result = kept aliasOf accept (arranged d))
    (perm : ∀ d d', orders d → orders d' → (arranged d).Perm (arranged d'))
    (reversed : ∀ d, orders d → ∃ d', orders d' ∧ arranged d' = (arranged d).reverse) :
    (∀ d d', orders d → orders d' → Agree (parse d) (parse d')) ↔
      (fit → ∀ d, orders d → TargetsFirst aliasOf (arranged d) →
        ¬ Contested aliasOf (arranged d)) := by
  constructor
  · intro agree fits d ordered first
    obtain ⟨d', ordered', turned⟩ := reversed d ordered
    have same := agree d d' ordered ordered'
    rw [(spec d ordered _).mpr ⟨fits, first, rfl⟩] at same
    cases parsed : parse d' with
    | error e => rw [parsed] at same; exact absurd same id
    | ok made =>
      obtain ⟨-, last, -⟩ := (spec d' ordered' made).mp parsed
      exact uncontested_of_reverse lawful first (turned ▸ last)
  · intro free d d' ordered ordered'
    -- What one order makes, every other order makes too.
    have accepted {d d' : D} {made : List (K × W)} (ordered : orders d) (ordered' : orders d')
        (parsed : parse d = .ok made) : ∃ made', parse d' = .ok made' ∧ made.Perm made' := by
      obtain ⟨fits, first, rfl⟩ := (spec d ordered made).mp parsed
      have arranges := perm d d' ordered ordered'
      have uncontested := mt (contested_perm arranges).mpr (free fits d ordered first)
      exact ⟨_, (spec d' ordered' _).mpr ⟨fits, targetsFirst_of_uncontested uncontested, rfl⟩,
        kept_perm arranges⟩
    cases parsed : parse d with
    | ok made =>
      obtain ⟨made', parsed', same⟩ := accepted ordered ordered' parsed
      rw [parsed']
      exact same
    | error e =>
      cases parsed' : parse d' with
      | error e' => exact trivial
      | ok made' =>
        obtain ⟨made, parsed'', -⟩ := accepted ordered' ordered parsed'
        rw [parsed] at parsed''
        cases parsed''

end

end Base.Aliases
