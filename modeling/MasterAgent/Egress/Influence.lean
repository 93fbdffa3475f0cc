import MasterAgent.Egress.Sanitize

/-!
# What reaches the model context

Two runs of the sanitizing passes on related provider results.

Results:

1. `rewrite_eq`: the redaction passes hide what is stored under the sensitive keys, once and at any
   depth;
2. `hidden_values_do_not_influence`: results that differ under sensitive keys only are sanitized
   alike;
3. `requestedItems_minimized`: every pass before the projection works key by key;
4. `unrequested_fields_do_not_influence`: accepted results that agree on what was requested have one
   sanitized form.
-/

namespace MasterAgent
open Base

section
variable [Host] [CharTables]

/-! ## Hiding -/

/-- The keys under which the redaction passes hide values. -/
def hiddenKey (binding : ProviderDataEgressBinding) (key : String) : Bool :=
  isSecretKey key || isSecretVariant key ||
    (binding.redactedFields.map fieldIdentity).contains (fieldIdentity key)

mutual
/-- The values differ at most in what is stored under hidden keys. -/
inductive AlikeExcept (hidden : String → Bool) : Json → Json → Prop
  | same (value : Json) : AlikeExcept hidden value value
  | arr {items others : List Json} (alike : AlikeItems hidden items others) :
      AlikeExcept hidden (.arr items) (.arr others)
  | obj {fields others : Fields} (alike : AlikeFields hidden fields others) :
      AlikeExcept hidden (.obj fields) (.obj others)
inductive AlikeItems (hidden : String → Bool) : List Json → List Json → Prop
  | nil : AlikeItems hidden [] []
  | cons {a b : Json} {items others : List Json} (head : AlikeExcept hidden a b)
      (tail : AlikeItems hidden items others) : AlikeItems hidden (a :: items) (b :: others)
inductive AlikeFields (hidden : String → Bool) : Fields → Fields → Prop
  | nil : AlikeFields hidden [] []
  | concealed {key : String} {a b : Json} {fields others : Fields} (secret : hidden key = true)
      (tail : AlikeFields hidden fields others) :
      AlikeFields hidden ((key, a) :: fields) ((key, b) :: others)
  | shown {key : String} {a b : Json} {fields others : Fields} (head : AlikeExcept hidden a b)
      (tail : AlikeFields hidden fields others) :
      AlikeFields hidden ((key, a) :: fields) ((key, b) :: others)
end

omit [Host] [CharTables] in
mutual
theorem hideUnder_alike {hidden : String → Bool} {a b : Json} :
    AlikeExcept hidden a b → hideUnder hidden a = hideUnder hidden b
  | .same _ => rfl
  | .arr alike => by rw [hideUnder, hideUnder, hideUnderItems_alike alike]
  | .obj alike => by rw [hideUnder, hideUnder, hideUnderFields_alike alike]
theorem hideUnderItems_alike {hidden : String → Bool} {a b : List Json} :
    AlikeItems hidden a b → hideUnderItems hidden a = hideUnderItems hidden b
  | .nil => rfl
  | .cons head tail => by
      rw [hideUnderItems, hideUnderItems, hideUnder_alike head, hideUnderItems_alike tail]
theorem hideUnderFields_alike {hidden : String → Bool} {a b : Fields} :
    AlikeFields hidden a b → hideUnderFields hidden a = hideUnderFields hidden b
  | .nil => rfl
  | .concealed secret tail => by
      rw [hideUnderFields, hideUnderFields, if_pos secret, if_pos secret,
        hideUnderFields_alike tail]
  | .shown head tail => by
      rw [hideUnderFields, hideUnderFields, hideUnder_alike head, hideUnderFields_alike tail]
end

omit [Host] [CharTables] in
mutual
/-- Two hiding passes are one. -/
theorem hideUnder_hideUnder (first second : String → Bool) : ∀ value : Json,
    hideUnder second (hideUnder first value) =
      hideUnder (fun key => first key || second key) value
  | .null | .bool _ | .int _ | .float _ | .str _ => rfl
  | .arr items => by simp only [hideUnder, hideUnderItems_hideUnderItems first second items]
  | .obj fields => by simp only [hideUnder, hideUnderFields_hideUnderFields first second fields]
theorem hideUnderItems_hideUnderItems (first second : String → Bool) : ∀ items : List Json,
    hideUnderItems second (hideUnderItems first items) =
      hideUnderItems (fun key => first key || second key) items
  | [] => rfl
  | item :: items => by
      simp only [hideUnderItems, hideUnder_hideUnder first second item,
        hideUnderItems_hideUnderItems first second items]
theorem hideUnderFields_hideUnderFields (first second : String → Bool) : ∀ fields : Fields,
    hideUnderFields second (hideUnderFields first fields) =
      hideUnderFields (fun key => first key || second key) fields
  | [] => rfl
  | (key, value) :: fields => by
      simp only [hideUnderFields, hideUnderFields_hideUnderFields first second fields]
      by_cases secret : first key = true
      · simp [secret, hideUnder]
      · simp [secret, hideUnder_hideUnder first second value]
end

variable [Links]

/-- What the redaction and findings passes make of a result. -/
def prepared (hidden : String → Bool) (fields : Fields) : Fields :=
  minimizeFindingsFields (hideUnderFields hidden fields)

/-- The passes before the contract: hide, minimize findings, minimize references. -/
theorem rewrite_eq (value : Fields) (binding : ProviderDataEgressBinding) :
    rewrite value binding =
      minimizeFields (binding.handling = .redact) (prepared (hiddenKey binding) value) := by
  unfold rewrite redactProviderSecretVariants redactSecrets redactConfiguredFields
  simp only [hideUnder_hideUnder]
  rfl

variable [InjectionGuard]

/-- Provider results that differ only under sensitive keys are sanitized alike. -/
theorem hidden_values_do_not_influence (binding : ProviderDataEgressBinding) {v w : Fields}
    (alike : AlikeFields (hiddenKey binding) v w) :
    sanitizeProviderMapping v binding = sanitizeProviderMapping w binding := by
  have rewritten : rewrite v binding = rewrite w binding := by
    rw [rewrite_eq, rewrite_eq, prepared, prepared, hideUnderFields_alike alike]
  unfold sanitizeProviderMapping
  rw [rewritten]

/-! ## The passes work key by key -/

omit [InjectionGuard] [Links] in
/-- What the redaction and findings passes make of the value stored under a key. -/
def preparedUnder (hidden : String → Bool) (key : String) (value : Json) : Json :=
  let shown := if hidden key then .str "<redacted>" else hideUnder hidden value
  if fieldIdentity key = "promptinjectionfindings" then
    match shown with
    | .arr findings => .arr (findingsMetadata findings)
    | _ => minimizePromptInjectionFindings shown
  else minimizePromptInjectionFindings shown

omit [InjectionGuard] [Links] in
theorem prepared_cons {hidden : String → Bool} {key : String} {value : Json} {fields : Fields} :
    prepared hidden ((key, value) :: fields) =
      (key, preparedUnder hidden key value) :: prepared hidden fields := rfl

omit [InjectionGuard] [Links] in
theorem lookup_prepared {hidden : String → Bool} {key : String} : ∀ {fields : Fields},
    (prepared hidden fields).lookup key = (fields.lookup key).map (preparedUnder hidden key)
  | [] => rfl
  | (k, v) :: fields => by
      rw [prepared_cons, Json.lookup_cons, Json.lookup_cons, lookup_prepared]
      split
      · next same => rw [same]; rfl
      · rfl

omit [InjectionGuard] in
/-- The reference pass reads and writes one item at a time. -/
theorem minimizeFields_cons {minimizePath : Bool} {key : String} {value : Json}
    {fields out : Fields} (ran : minimizeFields minimizePath ((key, value) :: fields) = .ok out) :
    ∃ written rest, minimizeReferences minimizePath key value = .ok written ∧
      minimizeFields minimizePath fields = .ok rest ∧ out = (key, written) :: rest := by
  rw [minimizeFields] at ran
  obtain ⟨written, head, ran⟩ := of_bind_ok ran
  obtain ⟨rest, tail, ran⟩ := of_bind_ok ran
  exact ⟨written, rest, head, tail, (Except.ok.inj ran).symm⟩

omit [InjectionGuard] in
theorem lookup_minimizeFields {minimizePath : Bool} (key : String) : ∀ {fields out : Fields},
    minimizeFields minimizePath fields = .ok out →
      (fields.lookup key = none ∧ out.lookup key = none) ∨
        ∃ value written, fields.lookup key = some value ∧ out.lookup key = some written ∧
          minimizeReferences minimizePath key value = .ok written
  | [], _, ran => by
      cases ran
      exact .inl ⟨rfl, rfl⟩
  | (k, v) :: fields, out, ran => by
      obtain ⟨written, rest, head, tail, rfl⟩ := minimizeFields_cons ran
      rw [Json.lookup_cons, Json.lookup_cons]
      by_cases same : key = k
      · subst same
        rw [if_pos rfl, if_pos rfl]
        exact .inr ⟨v, written, rfl, rfl, head⟩
      · rw [if_neg same, if_neg same]
        exact lookup_minimizeFields key tail

omit [InjectionGuard] in
/-- Selecting items by name and minimizing references commute. -/
theorem minimizeFields_requested {minimizePath : Bool} {allowed : List String} :
    ∀ {fields out : Fields}, minimizeFields minimizePath fields = .ok out →
      minimizeFields minimizePath (requestedItems allowed fields) =
        .ok (requestedItems allowed out)
  | [], _, ran => by
      cases ran
      rfl
  | (key, value) :: fields, out, ran => by
      obtain ⟨written, rest, head, tail, rfl⟩ := minimizeFields_cons ran
      have later : minimizeFields minimizePath (requestedItems allowed fields) =
          .ok (requestedItems allowed rest) := minimizeFields_requested tail
      rw [requestedItems_cons, requestedItems_cons]
      split
      · rw [minimizeFields, head, ok_bind, later]
        rfl
      · exact later

omit [InjectionGuard] in
/-- What is requested of a minimized mapping is a function of what is requested of the mapping. -/
theorem requestedItems_minimized {minimizePath : Bool} {allowed : List String}
    {a b a' b' : Fields} (agree : requestedItems allowed a = requestedItems allowed b)
    (ha : minimizeFields minimizePath a = .ok a') (hb : minimizeFields minimizePath b = .ok b') :
    requestedItems allowed a' = requestedItems allowed b' := by
  have first := @minimizeFields_requested _ _ _ minimizePath allowed _ _ ha
  have second := @minimizeFields_requested _ _ _ minimizePath allowed _ _ hb
  rw [agree, second] at first
  exact (Except.ok.inj first).symm

omit [InjectionGuard] [Links] in
theorem requestedItems_prepared {hidden : String → Bool} {allowed : List String} :
    ∀ {fields : Fields}, requestedItems allowed (prepared hidden fields) =
      prepared hidden (requestedItems allowed fields)
  | [] => rfl
  | (key, value) :: fields => by
      have later : requestedItems allowed (prepared hidden fields) =
          prepared hidden (requestedItems allowed fields) := requestedItems_prepared
      rw [prepared_cons, requestedItems_cons, requestedItems_cons]
      split
      · rw [prepared_cons, later]
      · exact later

/-! ### Findings of a provider -/

omit [InjectionGuard] [Links] [CharTables] [Host] in
theorem assign_filter {p : String → Bool} {key : String} {value : Json} : ∀ {fields : Fields},
    (assign key value fields).filter (fun item => p item.1) =
      if p key then assign key value (fields.filter fun item => p item.1)
      else fields.filter fun item => p item.1
  | [] => by by_cases named : p key = true <;> simp [assign, named]
  | (k, v) :: fields => by
      have later : (assign key value fields).filter (fun item => p item.1) =
          if p key then assign key value (fields.filter fun item => p item.1)
          else fields.filter fun item => p item.1 := assign_filter
      by_cases same : k = key
      · subst same
        by_cases named : p k = true <;> simp [named, assign]
      · by_cases named : p k = true
        · by_cases wanted : p key = true <;> simp [assign, same, named, wanted, later]
        · rw [assign, if_neg same]
          simp [named, later]

omit [InjectionGuard] [Links] in
/-- The names under which a finding is read. -/
def isFindingText (key : String) : Bool := ["path", "excerpt"].contains (fieldIdentity key)

omit [InjectionGuard] [Links] in
theorem findingText_congr {identity : String} {a b : Fields}
    (named : identity = "path" ∨ identity = "excerpt")
    (agree : a.filter (fun item => isFindingText item.1) =
      b.filter fun item => isFindingText item.1) :
    findingText identity a = findingText identity b := by
  have read : ∀ fields : Fields, findingText identity fields =
      findingText identity (fields.filter fun item => isFindingText item.1) := by
    intro fields
    unfold findingText
    congr 1
    induction fields with
    | nil => rfl
    | cons item fields ih =>
        obtain ⟨key, value⟩ := item
        by_cases text : isFindingText key = true
        · rw [List.filter_cons_of_pos (by simpa using text), List.filterMap_cons,
            List.filterMap_cons, ih]
        · have other : fieldIdentity key ≠ identity := by
            rintro rfl
            rcases named with same | same <;> simp [isFindingText, same] at text
          rw [List.filter_cons_of_neg (by simpa using text), List.filterMap_cons, ← ih]
          cases value <;> simp [other]
  rw [read a, read b, agree]

omit [InjectionGuard] [Links] in
/-- What is requested of a minimized finding depends on what is requested of the finding and on its
texts. -/
theorem requestedItems_finding {allowed : List String} {a b : Fields}
    (agree : requestedItems allowed a = requestedItems allowed b)
    (texts : a.filter (fun item => isFindingText item.1) =
      b.filter fun item => isFindingText item.1) :
    requestedItems allowed (findingMetadata a) = requestedItems allowed (findingMetadata b) := by
  have kept : ∀ fields : Fields,
      requestedItems allowed (fields.filter fun item =>
        !(["excerpt", "path"].contains (fieldIdentity item.1))) =
      (requestedItems allowed fields).filter fun item =>
        !(["excerpt", "path"].contains (fieldIdentity item.1)) := by
    intro fields
    unfold requestedItems
    rw [List.filter_filter, List.filter_filter]
    exact List.filter_congr fun item _ => Bool.and_comm _ _
  have same := kept b
  rw [← agree, ← kept a] at same
  have set : ∀ (key : String) (value : Json) {c d : Fields},
      requestedItems allowed c = requestedItems allowed d →
        requestedItems allowed (assign key value c) =
          requestedItems allowed (assign key value d) := by
    intro key value c d equal
    unfold requestedItems at equal ⊢
    rw [assign_filter (p := fun name => allowed.contains (normalizeFieldName name)),
      assign_filter (p := fun name => allowed.contains (normalizeFieldName name)), equal]
  unfold findingMetadata
  rw [findingText_congr (.inl rfl) texts, findingText_congr (.inr rfl) texts]
  cases findingText "path" b with
  | none =>
    cases findingText "excerpt" b with
    | none => exact same.symm
    | some excerpt => exact set _ _ (set _ _ same.symm)
  | some path =>
    have located := set "path_sha256" (.str (egressDigest (.str path))) same.symm
    cases findingText "excerpt" b with
    | none => exact located
    | some excerpt => exact set _ _ (set _ _ located)

/-! ### Records of a collection -/

omit [InjectionGuard] [Links] [CharTables] [Host] in
theorem filter_hidden {hidden p : String → Bool} : ∀ {fields : Fields},
    (hideUnderFields hidden fields).filter (fun item => p item.1) =
      hideUnderFields hidden (fields.filter fun item => p item.1)
  | [] => rfl
  | (key, value) :: fields => by
      have later : (hideUnderFields hidden fields).filter (fun item => p item.1) =
          hideUnderFields hidden (fields.filter fun item => p item.1) := filter_hidden
      by_cases named : p key = true <;> simp [hideUnderFields, named, later]

omit [InjectionGuard] [Links] [CharTables] [Host] in
/-- Mappings that agree on some items agree on fewer. -/
theorem filter_of_agree {p q : String → Bool} (fewer : ∀ key, p key = true → q key = true)
    {a b : Fields} (agree : a.filter (fun item => q item.1) = b.filter fun item => q item.1) :
    a.filter (fun item => p item.1) = b.filter fun item => p item.1 := by
  have both : ∀ fields : Fields, fields.filter (fun item => p item.1) =
      (fields.filter fun item => q item.1).filter fun item => p item.1 := by
    intro fields
    rw [List.filter_filter]
    refine List.filter_congr fun item _ => ?_
    by_cases named : p item.1 = true
    · simp [named, fewer item.1 named]
    · simp [named]
  rw [both a, both b, agree]

/-- What the passes make of an entry of a list; entries of a list of findings that are no mappings
are dropped. -/
def preparedEntry (findings : Bool) (hidden : String → Bool) (entry : Json) : Option Json :=
  if findings then
    match hideUnder hidden entry with
    | .obj fields => some (.obj (findingMetadata fields))
    | _ => none
  else some (minimizePromptInjectionFindings (hideUnder hidden entry))

omit [InjectionGuard] [Links] in
theorem preparedUnder_arr {hidden : String → Bool} {key : String} (shown : hidden key = false)
    (items : List Json) :
    preparedUnder hidden key (.arr items) = .arr (items.filterMap
      (preparedEntry (fieldIdentity key == "promptinjectionfindings") hidden)) := by
  have hide : ∀ items : List Json, hideUnderItems hidden items = items.map (hideUnder hidden) := by
    intro items
    induction items with
    | nil => rfl
    | cons item items ih => rw [hideUnderItems, ih, List.map_cons]
  have minimize : ∀ items : List Json,
      minimizeFindingsItems items = items.map minimizePromptInjectionFindings := by
    intro items
    induction items with
    | nil => rfl
    | cons item items ih => rw [minimizeFindingsItems, ih, List.map_cons]
  unfold preparedUnder
  rw [shown, if_neg Bool.false_ne_true, hideUnder, hide]
  by_cases findings : fieldIdentity key = "promptinjectionfindings"
  · simp only [findings, if_true, findingsMetadata, List.filterMap_map, beq_self_eq_true]
    congr 1
  · simp only [findings, if_false, minimizePromptInjectionFindings, minimize, List.map_map,
      beq_eq_false_iff_ne.mpr findings, preparedEntry, Bool.false_eq_true]
    congr 1
    rw [← List.filterMap_eq_map]
    rfl

/-- The items of a record that are looked at. -/
def seenEntry (sees : String → Bool) : Json → Json
  | .obj fields => .obj (fields.filter fun item => sees item.1)
  | entry => entry

omit [InjectionGuard] [Links] in
/-- Records that agree on the names looked at are prepared into records that agree on what is
requested. -/
theorem preparedEntry_agree {allowed : List String} {findings : Bool} {hidden sees : String → Bool}
    (requested : ∀ key, allowed.contains (normalizeFieldName key) = true → sees key = true)
    (texts : findings = true → ∀ key, isFindingText key = true → sees key = true) {a b : Fields}
    (agree : a.filter (fun item => sees item.1) = b.filter fun item => sees item.1) :
    ∃ c d, preparedEntry findings hidden (.obj a) = some (.obj c) ∧
      preparedEntry findings hidden (.obj b) = some (.obj d) ∧
      requestedItems allowed c = requestedItems allowed d := by
  have named : requestedItems allowed a = requestedItems allowed b :=
    filter_of_agree requested agree
  cases findings with
  | false =>
      refine ⟨prepared hidden a, prepared hidden b, rfl, rfl, ?_⟩
      rw [requestedItems_prepared, requestedItems_prepared, named]
  | true =>
      refine ⟨findingMetadata (hideUnderFields hidden a),
        findingMetadata (hideUnderFields hidden b), rfl, rfl, requestedItems_finding ?_ ?_⟩
      · unfold requestedItems at named ⊢
        rw [filter_hidden (p := fun key => allowed.contains (normalizeFieldName key)),
          filter_hidden (p := fun key => allowed.contains (normalizeFieldName key)), named]
      · rw [filter_hidden, filter_hidden, filter_of_agree (texts rfl) agree]

omit [InjectionGuard] in
theorem minimizeItems_cons {minimizePath : Bool} {key : String} {item : Json}
    {items out : List Json} (ran : minimizeItems minimizePath key (item :: items) = .ok out) :
    ∃ written rest, minimizeReferences minimizePath key item = .ok written ∧
      minimizeItems minimizePath key items = .ok rest ∧ out = written :: rest := by
  rw [minimizeItems] at ran
  obtain ⟨written, head, ran⟩ := of_bind_ok ran
  obtain ⟨rest, tail, ran⟩ := of_bind_ok ran
  exact ⟨written, rest, head, tail, (Except.ok.inj ran).symm⟩

omit [Host] [CharTables] [InjectionGuard] [Links] in
theorem mappings_cons {item : Json} {items : List Json} {entries : List Fields}
    (read : onlyMappings (item :: items) = some entries) :
    ∃ fields rest, item = .obj fields ∧ onlyMappings items = some rest ∧ entries = fields :: rest := by
  cases item with
  | obj fields =>
      obtain ⟨rest, tail, rfl⟩ := Option.map_eq_some_iff.mp read
      exact ⟨fields, rest, rfl, tail, rfl⟩
  | _ => cases read

omit [InjectionGuard] in
theorem minimizeReferences_obj {minimizePath : Bool} {key : String} {fields : Fields} {out : Json}
    (ran : minimizeReferences minimizePath key (.obj fields) = .ok out) :
    ∃ written, minimizeFields minimizePath fields = .ok written ∧ out = .obj written := by
  rw [minimizeReferences] at ran
  obtain ⟨written, inner, ran⟩ := of_bind_ok ran
  exact ⟨written, inner, (Except.ok.inj ran).symm⟩

omit [InjectionGuard] in
/-- The records of two lists that agree on the names looked at, once prepared, agree on what is
requested, entry by entry. -/
theorem entries_agree {allowed : List String} {findings minimizePath : Bool} {key : String}
    {hidden sees : String → Bool}
    (requested : ∀ key, allowed.contains (normalizeFieldName key) = true → sees key = true)
    (texts : findings = true → ∀ key, isFindingText key = true → sees key = true) :
    ∀ {xs ys xs' ys' : List Json} {es fs : List Fields},
      xs.map (seenEntry sees) = ys.map (seenEntry sees) →
      minimizeItems minimizePath key (xs.filterMap (preparedEntry findings hidden)) = .ok xs' →
      onlyMappings xs' = some es →
      minimizeItems minimizePath key (ys.filterMap (preparedEntry findings hidden)) = .ok ys' →
      onlyMappings ys' = some fs → es.map (requestedItems allowed) = fs.map (requestedItems allowed)
  | [], [], _, _, _, _, _, rx, mx, ry, my => by
      cases rx
      cases mx
      cases ry
      cases my
      rfl
  | [], _ :: _, _, _, _, _, agree, _, _, _, _ => by cases agree
  | _ :: _, [], _, _, _, _, agree, _, _, _, _ => by cases agree
  | x :: xs, y :: ys, xs', ys', es, fs, agree, rx, mx, ry, my => by
      rw [List.map_cons, List.map_cons, List.cons.injEq] at agree
      obtain ⟨head, tail⟩ := agree
      -- Two mappings agree on what is looked at; anything else is equal.
      have prepare : (preparedEntry findings hidden x = none ∧
            preparedEntry findings hidden y = none) ∨
          ∃ c d, preparedEntry findings hidden x = some c ∧
            preparedEntry findings hidden y = some d ∧
            (c = d ∨ ∃ c' d', c = .obj c' ∧ d = .obj d' ∧
              requestedItems allowed c' = requestedItems allowed d') := by
        have same (equal : x = y) : (preparedEntry findings hidden x = none ∧
              preparedEntry findings hidden y = none) ∨
            ∃ c d, preparedEntry findings hidden x = some c ∧
              preparedEntry findings hidden y = some d ∧
              (c = d ∨ ∃ c' d', c = .obj c' ∧ d = .obj d' ∧
                requestedItems allowed c' = requestedItems allowed d') := by
          subst equal
          cases preparedEntry findings hidden x with
          | none => exact .inl ⟨rfl, rfl⟩
          | some c => exact .inr ⟨c, c, rfl, rfl, .inl rfl⟩
        cases x with
        | obj a =>
            cases y with
            | obj b =>
                obtain ⟨c, d, hc, hd, equal⟩ :=
                  @preparedEntry_agree _ _ allowed findings hidden sees requested texts _ _
                    (Json.obj.inj head)
                exact .inr ⟨_, _, hc, hd, .inr ⟨c, d, rfl, rfl, equal⟩⟩
            | _ => cases head
        | _ =>
            refine same ?_
            cases y <;> first | exact head | cases head
      rcases prepare with ⟨hx, hy⟩ | ⟨c, d, hx, hy, equal⟩
      · rw [List.filterMap_cons_none hx] at rx
        rw [List.filterMap_cons_none hy] at ry
        exact entries_agree requested texts tail rx mx ry my
      · rw [List.filterMap_cons_some hx] at rx
        rw [List.filterMap_cons_some hy] at ry
        obtain ⟨c', xs', hc, rx', rfl⟩ := minimizeItems_cons rx
        obtain ⟨d', ys', hd, ry', rfl⟩ := minimizeItems_cons ry
        obtain ⟨e, es, rfl, mx', rfl⟩ := mappings_cons mx
        obtain ⟨f, fs, rfl, my', rfl⟩ := mappings_cons my
        rw [List.map_cons, List.map_cons, entries_agree requested texts tail rx' mx' ry' my']
        congr 1
        rcases equal with rfl | ⟨a, b, rfl, rfl, equal⟩
        · rw [hc] at hd
          rw [Json.obj.inj (Except.ok.inj hd)]
        · obtain ⟨e', he, same_e⟩ := minimizeReferences_obj hc
          obtain ⟨f', hf, same_f⟩ := minimizeReferences_obj hd
          cases same_e
          cases same_f
          exact requestedItems_minimized equal he hf

/-! ## What was requested -/

/-- The name has the normal form of a requested field or of one of its aliases. -/
def isRequested (binding : ProviderDataEgressBinding) (name : String) : Bool :=
  (normalizedRequestedFields binding.requestedFields).contains (normalizeFieldName name)

/-- The part of a resource that is looked at: the requested items of a record, the items of the
records of a collection that `sees` names, a scalar if it was requested. -/
def seenPart (binding : ProviderDataEgressBinding) (sees : String → String → Bool)
    (key descriptor : String) (item : Json) : Json :=
  match descriptor, item with
  | "object", .obj fields =>
      .obj (requestedItems (normalizedRequestedFields binding.requestedFields) fields)
  | "object_list", .arr items => .arr (items.map (seenEntry (sees key)))
  | "value", item => if isRequested binding key then item else .null
  | _, item => item

/-- Two results agree on the schema, on the bound metadata and on the part of every bound resource
that is looked at. -/
structure AgreeOn (binding : ProviderDataEgressBinding) (sees : String → String → Bool)
    (v w : Fields) : Prop where
  schema : v.lookup "schema" = w.lookup "schema"
  metadata : ∀ key ∈ binding.outputMetadataFields, v.lookup key = w.lookup key
  resources : ∀ resource ∈ binding.outputResources,
    (v.lookup resource.1).map (seenPart binding sees resource.1 resource.2) =
      (w.lookup resource.1).map (seenPart binding sees resource.1 resource.2)

/-- What is looked at in a record of a collection: the requested items, and in a collection of
findings the texts the findings are identified by. -/
def seesRecord (binding : ProviderDataEgressBinding) (resource key : String) : Bool :=
  isRequested binding key ||
    (fieldIdentity resource == "promptinjectionfindings" && isFindingText key)

/-- A rewritten result and what it was rewritten from, under one key. -/
def RewrittenAt (binding : ProviderDataEgressBinding) (v v' : Fields) (key : String) : Prop :=
  (v.lookup key = none ∧ v'.lookup key = none) ∨
    ∃ value written, v.lookup key = some value ∧ v'.lookup key = some written ∧
      minimizeReferences (binding.handling = .redact) key
        (preparedUnder (hiddenKey binding) key value) = .ok written

omit [InjectionGuard] in
theorem rewritten_at {binding : ProviderDataEgressBinding} {v v' : Fields}
    (ran : rewrite v binding = .ok v') (key : String) : RewrittenAt binding v v' key := by
  rw [rewrite_eq] at ran
  rcases lookup_minimizeFields key ran with ⟨absent, missing⟩ | ⟨b, c, found, out, step⟩
  · rw [lookup_prepared, Option.map_eq_none_iff] at absent
    exact .inl ⟨absent, missing⟩
  · rw [lookup_prepared] at found
    obtain ⟨value, there, rfl⟩ := Option.map_eq_some_iff.mp found
    exact .inr ⟨value, c, there, out, step⟩

omit [InjectionGuard] in
/-- Equal values are rewritten alike. -/
theorem RewrittenAt.congr {binding : ProviderDataEgressBinding} {v v' w w' : Fields} {key : String}
    (hv : RewrittenAt binding v v' key) (hw : RewrittenAt binding w w' key)
    (same : v.lookup key = w.lookup key) : v'.lookup key = w'.lookup key := by
  rcases hv with ⟨absent, missing⟩ | ⟨a, a', found, out, step⟩
  · rcases hw with ⟨_, missing'⟩ | ⟨b, b', found', _, _⟩
    · rw [missing, missing']
    · rw [absent, found'] at same
      cases same
  · rcases hw with ⟨absent', _⟩ | ⟨b, b', found', out', step'⟩
    · rw [found, absent'] at same
      cases same
    · rw [found, found'] at same
      cases same
      rw [step] at step'
      rw [out, out', Except.ok.inj step']

omit [InjectionGuard] [Links] in
theorem shown_of_container {hidden : String → Bool} {key : String} {value : Json}
    (container : ∀ text, preparedUnder hidden key value ≠ .str text) : hidden key = false := by
  by_contra concealed
  rw [Bool.not_eq_false] at concealed
  refine container "<redacted>" ?_
  unfold preparedUnder
  rw [concealed, if_pos rfl]
  by_cases findings : fieldIdentity key = "promptinjectionfindings"
  · simp [findings, minimizePromptInjectionFindings]
  · simp [findings, minimizePromptInjectionFindings]

omit [InjectionGuard] [Links] in
theorem preparedUnder_obj {hidden : String → Bool} {key : String} (shown : hidden key = false)
    (fields : Fields) :
    preparedUnder hidden key (.obj fields) = .obj (prepared hidden fields) := by
  unfold preparedUnder
  rw [shown, if_neg Bool.false_ne_true]
  split <;> rfl

omit [InjectionGuard] [Links] in
theorem preparedUnder_scalar {hidden : String → Bool} {key : String} (shown : hidden key = false)
    {value : Json} (scalar : isJsonScalar value = true) :
    preparedUnder hidden key value = value := by
  unfold preparedUnder
  rw [shown, if_neg Bool.false_ne_true]
  cases value with
  | arr items => cases scalar
  | obj fields => cases scalar
  | _ => split <;> rfl

omit [InjectionGuard] in
/-- A container is written from one of its kind. -/
theorem container_of_written {minimizePath : Bool} {key : String} {value out : Json}
    (ran : minimizeReferences minimizePath key value = .ok out) :
    (∀ fields, out = .obj fields → ∃ inner, value = .obj inner) ∧
      ∀ items, out = .arr items → ∃ inner, value = .arr inner := by
  cases value with
  | obj inner =>
      obtain ⟨_, _, rfl⟩ := minimizeReferences_obj ran
      exact ⟨fun _ _ => ⟨inner, rfl⟩, nofun⟩
  | arr inner =>
      rw [minimizeReferences] at ran
      obtain ⟨_, _, same⟩ := of_bind_ok ran
      cases same
      exact ⟨nofun, fun _ _ => ⟨inner, rfl⟩⟩
  | str text =>
      rw [minimizeReferences] at ran
      split at ran
      · obtain ⟨_, _, same⟩ := of_bind_ok ran
        cases same
        exact ⟨nofun, nofun⟩
      · cases ran
        exact ⟨nofun, nofun⟩
  | _ =>
      cases ran
      exact ⟨nofun, nofun⟩

omit [InjectionGuard] in
/-- Only a mapping is rewritten to a mapping. -/
theorem mapping_of_rewritten {hidden : String → Bool} {minimizePath : Bool} {key : String}
    {value : Json} {out : Fields}
    (ran : minimizeReferences minimizePath key (preparedUnder hidden key value) = .ok (.obj out)) :
    ∃ fields, value = .obj fields ∧
      minimizeFields minimizePath (prepared hidden fields) = .ok out := by
  obtain ⟨inner, middle⟩ := (container_of_written ran).1 out rfl
  have shown : hidden key = false := shown_of_container fun text same => by
    rw [middle] at same
    cases same
  cases value with
  | obj fields =>
      rw [preparedUnder_obj shown] at ran
      obtain ⟨written, minimized, same⟩ := minimizeReferences_obj ran
      rw [Json.obj.inj same]
      exact ⟨fields, rfl, minimized⟩
  | arr items =>
      rw [preparedUnder_arr shown] at middle
      cases middle
  | _ =>
      rw [preparedUnder_scalar shown rfl] at middle
      cases middle

omit [InjectionGuard] in
/-- Only a list is rewritten to a list. -/
theorem list_of_rewritten {hidden : String → Bool} {minimizePath : Bool} {key : String}
    {value : Json} {out : List Json}
    (ran : minimizeReferences minimizePath key (preparedUnder hidden key value) = .ok (.arr out)) :
    ∃ items, value = .arr items ∧ minimizeItems minimizePath key (items.filterMap
      (preparedEntry (fieldIdentity key == "promptinjectionfindings") hidden)) = .ok out := by
  obtain ⟨inner, middle⟩ := (container_of_written ran).2 out rfl
  have shown : hidden key = false := shown_of_container fun text same => by
    rw [middle] at same
    cases same
  cases value with
  | arr items =>
      refine ⟨items, rfl, ?_⟩
      rw [preparedUnder_arr shown, minimizeReferences] at ran
      obtain ⟨written, minimized, same⟩ := of_bind_ok ran
      rw [← Json.arr.inj (Except.ok.inj same)]
      exact minimized
  | obj fields =>
      rw [preparedUnder_obj shown] at middle
      cases middle
  | _ =>
      rw [preparedUnder_scalar shown rfl] at middle
      cases middle

omit [InjectionGuard] in
/-- A resource of which two results show the same part is projected alike. -/
theorem projectResource_agree {binding : ProviderDataEgressBinding}
    (requested : binding.requestedFields ≠ []) {key descriptor : String} {a b a' b' : Json}
    {p q : Option Json}
    (seen : seenPart binding (seesRecord binding) key descriptor a =
      seenPart binding (seesRecord binding) key descriptor b)
    (ha : minimizeReferences (binding.handling = .redact) key
      (preparedUnder (hiddenKey binding) key a) = .ok a')
    (hb : minimizeReferences (binding.handling = .redact) key
      (preparedUnder (hiddenKey binding) key b) = .ok b')
    (hp : projectResource binding.requestedFields key descriptor a' = .ok p)
    (hq : projectResource binding.requestedFields key descriptor b' = .ok q) : p = q := by
  have project : ∀ fields, projectEntry binding.requestedFields fields =
      omitReservedFields
        (requestedItems (normalizedRequestedFields binding.requestedFields) fields) :=
    fun fields => if_neg requested
  rcases projectResource_descriptor hp with rfl | rfl | rfl
  · obtain ⟨A', rfl, rfl⟩ := projectResource_object hp
    obtain ⟨B', rfl, rfl⟩ := projectResource_object hq
    obtain ⟨A, rfl, runA⟩ := mapping_of_rewritten ha
    obtain ⟨B, rfl, runB⟩ := mapping_of_rewritten hb
    have named : requestedItems (normalizedRequestedFields binding.requestedFields) A =
        requestedItems (normalizedRequestedFields binding.requestedFields) B := Json.obj.inj seen
    rw [project, project, requestedItems_minimized ?_ runA runB]
    rw [requestedItems_prepared, requestedItems_prepared, named]
  · obtain ⟨xs', es, rfl, readx, rfl⟩ := projectResource_list hp
    obtain ⟨ys', fs, rfl, ready, rfl⟩ := projectResource_list hq
    obtain ⟨xs, rfl, runx⟩ := list_of_rewritten ha
    obtain ⟨ys, rfl, runy⟩ := list_of_rewritten hb
    have wanted : ∀ name, (normalizedRequestedFields binding.requestedFields).contains
        (normalizeFieldName name) = true → seesRecord binding key name = true := by
      intro name named
      rw [seesRecord, isRequested, named, Bool.true_or]
    have texts : (fieldIdentity key == "promptinjectionfindings") = true →
        ∀ name, isFindingText name = true → seesRecord binding key name = true := by
      intro findings name text
      rw [seesRecord, findings, text, Bool.and_self, Bool.or_true]
    have entries := entries_agree wanted texts (Json.arr.inj seen) runx readx runy ready
    have projected : es.map (fun fields => Json.obj (projectEntry binding.requestedFields fields)) =
        fs.map fun fields => Json.obj (projectEntry binding.requestedFields fields) := by
      simp only [project]
      have mapped := congrArg (List.map fun fields => Json.obj (omitReservedFields fields)) entries
      simpa only [List.map_map, Function.comp_def] using mapped
    rw [projected]
  · rw [projectResource_value hp, projectResource_value hq]
    split
    · next wanted =>
        have named : isRequested binding key = true :=
          List.contains_iff_mem.mpr (wanted.resolve_left requested)
        have same : a = b := by simpa [seenPart, named] using seen
        subst same
        rw [ha] at hb
        rw [Except.ok.inj hb]
    · rfl

omit [InjectionGuard] in
theorem projectResources_agree {binding : ProviderDataEgressBinding}
    (requested : binding.requestedFields ≠ []) {v v' w w' : Fields}
    (hv : ∀ key, RewrittenAt binding v v' key) (hw : ∀ key, RewrittenAt binding w w' key) :
    ∀ {resources : List (String × String)}, (∀ resource ∈ resources,
        (v.lookup resource.1).map (seenPart binding (seesRecord binding) resource.1 resource.2) =
          (w.lookup resource.1).map
            (seenPart binding (seesRecord binding) resource.1 resource.2)) →
      ∀ {projected x y : Fields},
        projectResources binding.requestedFields v' resources projected = .ok x →
        projectResources binding.requestedFields w' resources projected = .ok y → x = y
  | [], _, projected, x, y, hx, hy => by
      rw [projectResources] at hx hy
      rw [← Except.ok.inj hx, ← Except.ok.inj hy]
  | (key, descriptor) :: resources, seen, projected, x, y, hx, hy => by
      have here := seen (key, descriptor) List.mem_cons_self
      have later : ∀ {projected x y : Fields},
          projectResources binding.requestedFields v' resources projected = .ok x →
          projectResources binding.requestedFields w' resources projected = .ok y → x = y :=
        projectResources_agree requested hv hw fun resource h =>
          seen resource (List.mem_cons_of_mem _ h)
      rcases hv key with ⟨_, missing⟩ | ⟨a, a', found, out, step⟩
      · rw [projectResources, missing] at hx
        cases hx
      rcases hw key with ⟨_, missing⟩ | ⟨b, b', found', out', step'⟩
      · rw [projectResources, missing] at hy
        cases hy
      rw [projectResources, out] at hx
      rw [projectResources, out'] at hy
      obtain ⟨p, hp, hx⟩ := of_bind_ok hx
      obtain ⟨q, hq, hy⟩ := of_bind_ok hy
      simp only [found, found', Option.map_some, Option.some.injEq] at here
      have same : p = q := projectResource_agree requested here step step' hp hq
      subst same
      cases p with
      | none => exact later hx hy
      | some part => exact later hx hy

omit [Host] [CharTables] [Links] [InjectionGuard] in
theorem copyMetadata_congr {limit : Option Int} {v w : Fields} : ∀ {keys : List String},
    (∀ key ∈ keys, v.lookup key = w.lookup key) → ∀ {projected : Fields},
      copyMetadata limit v keys projected = copyMetadata limit w keys projected
  | [], _, _ => rfl
  | key :: keys, same, projected => by
      have later : ∀ {projected : Fields},
          copyMetadata limit v keys projected = copyMetadata limit w keys projected :=
        copyMetadata_congr fun k h => same k (List.mem_cons_of_mem _ h)
      rw [copyMetadata, copyMetadata, same key List.mem_cons_self]
      cases w.lookup key with
      | none => exact later
      | some item => simp only [later]

/-- Two accepted results that agree on the schema, on the bound metadata and on what was requested
of every bound resource have the same sanitized form. -/
theorem unrequested_fields_do_not_influence (binding : ProviderDataEgressBinding)
    (requested : binding.requestedFields ≠ []) {v w x y : Fields}
    (hv : sanitizeProviderMapping v binding = .ok x)
    (hw : sanitizeProviderMapping w binding = .ok y)
    (agree : AgreeOn binding (seesRecord binding) v w) : x = y := by
  unfold sanitizeProviderMapping at hv hw
  obtain ⟨v', rv, hv⟩ := of_bind_ok hv
  obtain ⟨w', rw', hw⟩ := of_bind_ok hw
  obtain ⟨x', cx, hv⟩ := of_bind_ok hv
  obtain ⟨y', cy, hw⟩ := of_bind_ok hw
  have contract : x' = y' := by
    unfold applyOutputContract at cx cy
    split at cx
    · cases cx
    split at cx
    · cases cx
    split at cy
    · cases cy
    split at cy
    · cases cy
    obtain ⟨mx, metax, cx⟩ := of_bind_ok cx
    obtain ⟨my, metay, cy⟩ := of_bind_ok cy
    have metadata : mx = my := by
      rw [copyMetadata_congr fun key h => (rewritten_at rv key).congr (rewritten_at rw' key)
        (agree.metadata key h), metay] at metax
      exact (Except.ok.inj metax).symm
    subst metadata
    rw [assignCitations, if_neg requested, ok_bind] at cx cy
    obtain ⟨px, projx, cx⟩ := of_bind_ok cx
    obtain ⟨py, projy, cy⟩ := of_bind_ok cy
    have projected : px = py := projectResources_agree requested (rewritten_at rv)
      (rewritten_at rw') agree.resources projx projy
    subst projected
    rw [cx] at cy
    exact Except.ok.inj cy
  subst contract
  rw [hv] at hw
  exact Except.ok.inj hw

end

/-! ## Sample results -/

namespace Influence.Samples

local instance : Host := asciiHost id
local instance : CharTables := asciiTables
local instance : Links := ⟨fun _ => .ok none, fun scheme host path => scheme ++ "://" ++ host ++ path⟩
local instance : InjectionGuard := ⟨fun _ => []⟩

/-- One resource of which one field was requested. -/
def binding (resource descriptor field : String) : ProviderDataEgressBindingFields where
  handling := .allow
  requestedFields := [field]
  outputSchema := "s"
  outputResources := [(resource, descriptor)]
  outputMetadataFields := []
  requestedItemLimit := some 5
  maxOutputBytes := 10000
  redactedFields := []
  policyAllowedFields := [field]

def pageBinding : ProviderDataEgressBinding :=
  ⟨binding "page" "object" "title", by decide +kernel⟩

def page (body token : String) : Fields :=
  [("schema", .str "s"),
    ("page", .obj [("title", .str "t"), ("body", .str body), ("token", .str token)])]

theorem tokens_alike : AlikeFields (hiddenKey pageBinding) (page "a" "x") (page "a" "y") :=
  .shown (.same _) (.shown (.obj (.shown (.same _) (.shown (.same _)
    (.concealed (by decide +kernel) .nil)))) .nil)

/-- The token does not show. -/
theorem token_does_not_influence :
    sanitizeProviderMapping (page "a" "x") pageBinding =
      sanitizeProviderMapping (page "a" "y") pageBinding :=
  hidden_values_do_not_influence pageBinding tokens_alike

theorem pages_agree : AgreeOn pageBinding (seesRecord pageBinding) (page "a" "x") (page "b" "y") where
  schema := rfl
  metadata := fun _ h => by cases h
  resources := by decide +kernel

theorem page_accepted : (sanitizeProviderMapping (page "a" "x") pageBinding).isOk = true ∧
    (sanitizeProviderMapping (page "b" "y") pageBinding).isOk = true := by decide +kernel

/-- Neither does the body, which was not requested. -/
theorem body_does_not_influence : ∃ out,
    sanitizeProviderMapping (page "a" "x") pageBinding = .ok out ∧
      sanitizeProviderMapping (page "b" "y") pageBinding = .ok out := by
  obtain ⟨x, hx⟩ := ok_of_isOk page_accepted.1
  obtain ⟨y, hy⟩ := ok_of_isOk page_accepted.2
  have same := unrequested_fields_do_not_influence pageBinding (by decide) hx hy pages_agree
  exact ⟨x, hx, same ▸ hy⟩

/-- A collection of findings of which the digest of the path was requested. -/
def findingsBinding : ProviderDataEgressBinding :=
  ⟨binding "prompt_injection_findings" "object_list" "path_sha256", by decide +kernel⟩

def findings (path : String) : Fields :=
  [("schema", .str "s"), ("prompt_injection_findings", .arr [.obj [("path", .str path)]])]

/-- The digest of a path that was not requested is returned. -/
theorem path_influences :
    (sanitizeProviderMapping (findings "a") findingsBinding).isOk = true ∧
    (sanitizeProviderMapping (findings "b") findingsBinding).isOk = true ∧
    AgreeOn findingsBinding (fun _ key => isRequested findingsBinding key)
      (findings "a") (findings "b") ∧
    sanitizeProviderMapping (findings "a") findingsBinding ≠
      sanitizeProviderMapping (findings "b") findingsBinding := by
  refine ⟨by decide +kernel, by decide +kernel, ⟨rfl, fun _ h => ?_, ?_⟩, by decide +kernel⟩
  · cases h
  · decide +kernel

end Influence.Samples

end MasterAgent
