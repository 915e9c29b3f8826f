import BlocksGenesis.Auth.External

/-! Where the two claim resolvers read. -/

namespace BlocksGenesis.Auth
open Python BlocksContext

/-- The node a path leads to, through objects and texts that open to objects. -/
def descend (rt : Runtime) : Json → List String → Except Exc (Option Json)
  | v, [] => .ok (some v)
  | v, property :: rest => do
    match ← openClaim rt v with
    | some (.obj fields) =>
      match fields.lookup property with
      | some inner => descend rt inner rest
      | none => return none
    | _ => return none

/-- What a resolver reads of claims: the claim a mapping names, and nothing else; where there is none, the node
the whole path leads to, and nothing else. -/
structure PathRule {α : Type} (rt : Runtime) (read : Fields → String → Except Exc α) (empty : α) (claims : Fields)
    (mapping : String) : Prop where
  named v others : claims.lookup mapping = some v → others.lookup mapping = some v →
    read others mapping = read claims mapping
  followed others : claims.lookup mapping = none → others.lookup mapping = none →
    descend rt (.obj others) (split '.' mapping) = descend rt (.obj claims) (split '.' mapping) →
    read others mapping = read claims mapping
  nowhere : claims.lookup mapping = none → descend rt (.obj claims) (split '.' mapping) = .ok none →
    read claims mapping = .ok empty

def BothFollow (rt : Runtime) (claims : Fields) (mapping : String) : Prop :=
  PathRule rt (extractClaimValue rt) "" claims mapping ∧ PathRule rt (extractRolesFromClaim rt) [] claims mapping

/-! ## Following a path -/

section Descend
variable {rt : Runtime} {claims : Fields} {path : List String} {node v : Json}

theorem descend_obj (claims : Fields) (first : String) (rest : List String) :
    descend rt (.obj claims) (first :: rest) = match claims.lookup first with
      | some inner => descend rt inner rest
      | none => .ok none := rfl

/-- Nothing but opening a text raises on the way. -/
theorem descend_error {e : Exc} (h : descend rt v path = .error e) : ∃ s, openClaim rt (.str s) = .error e := by
  induction path generalizing v with
  | nil => cases h
  | cons property rest ih =>
    unfold descend at h
    cases hopen : openClaim rt v with
    | error raised =>
      rw [hopen] at h
      cases h
      cases v with
      | str s => exact ⟨s, hopen⟩
      | null | bool | int | float | arr | obj => cases hopen
    | ok opened =>
      rw [hopen] at h
      simp only [bind, Except.bind] at h
      split at h
      · split at h
        · exact ih h
        · cases h
      · cases h

/-- The node, at the end of a path of its own. -/
def nest (node : Json) : List String → Json
  | [] => node
  | property :: rest => .obj [(property, nest node rest)]

theorem descend_nest (node : Json) (path : List String) : descend rt (nest node path) path = .ok (some node) := by
  induction path with
  | nil => rfl
  | cons property rest ih =>
    rw [nest, descend_obj, List.lookup_cons_self]
    exact ih

/-- Below the first two segments there is always room to differ: two properties that print differently, with
the same node at the end of the path. -/
theorem descend_twice (found : Option Json) (property : String) (rest : List String) :
    ∃ v v', descend rt v (property :: rest) = .ok found ∧ descend rt v' (property :: rest) = .ok found ∧
      printed rt v ≠ printed rt v' := by
  cases found with
  | none =>
    refine ⟨.int 1, .int 2, rfl, rfl, ?_⟩
    show toString (1 : Int) ≠ toString (2 : Int)
    decide
  | some node =>
    refine ⟨nest node (property :: rest), .obj [(property, nest node rest), ("", .null)],
      descend_nest node (property :: rest), ?_, ?_⟩
    · rw [descend_obj, List.lookup_cons_self]
      exact descend_nest node rest
    · intro hsame
      have hlength := congrArg String.length hsame
      have hcomma : ", ".length = 2 := by decide
      simp only [nest, printed, Json.toStr, Json.repr, reprFields, String.length_append] at hlength
      omega

end Descend

/-! ## One segment, or two -/

def nodeValue (rt : Runtime) : Option Json → String
  | some v => printed rt v
  | none => ""

def nodeRoles : Option Json → List String
  | some (.arr items) => items.filterMap (fun item => match item with
    | .str s => some s
    | _ => none)
  | _ => []

section Short
variable {rt : Runtime} {claims : Fields} {mapping : String}

theorem named_of_split {first property : String} {rest : List String}
    (h : split '.' mapping = first :: property :: rest) : mapping.isEmpty = false := by
  cases he : mapping.isEmpty with
  | false => rfl
  | true =>
    rw [String.isEmpty_iff.mp he] at h
    cases h

theorem split_length (h : (split '.' mapping).length ≤ 2) :
    split '.' mapping = [mapping] ∨ ∃ first property, split '.' mapping = [first, property] := by
  by_cases hdot : '.' ∈ mapping.toList
  · obtain ⟨first, property, rest, hsplit⟩ := split_of_mem hdot
    cases rest with
    | nil => exact .inr ⟨first, property, hsplit⟩
    | cons third rest =>
      rw [hsplit] at h
      simp only [List.length_cons] at h
      omega
  · exact .inl (split_of_not_mem hdot)

/-- A property of what was opened, if that is an object. -/
def propertyOf (property : String) : Option Json → Option Json
  | some (.obj fields) => fields.lookup property
  | _ => none

theorem claimProperty_eq {property : String} (opened : Option Json) :
    claimProperty rt property opened = nodeValue rt (propertyOf property opened) := by
  cases opened with
  | none => rfl
  | some v =>
    cases v with
    | obj fields =>
      dsimp only [claimProperty, propertyOf]
      cases fields.lookup property <;> rfl
    | _ => rfl

theorem nestedRoles_eq {property : String} (opened : Option Json) :
    nestedRoles property opened = nodeRoles (propertyOf property opened) := by
  cases opened with
  | none => rfl
  | some v =>
    cases v with
    | obj fields =>
      dsimp only [nestedRoles, propertyOf]
      cases fields.lookup property with
      | none => rfl
      | some inner => cases inner <;> rfl
    | _ => rfl

/-- One property below a claim is where both resolvers go on. -/
theorem descend_property (first property : String) :
    descend rt (.obj claims) [first, property] =
      (do return propertyOf property (← openClaim rt (claims.get first))) := by
  rw [descend_obj, Fields.get]
  cases claims.lookup first with
  | none => rfl
  | some v =>
    dsimp only [Option.getD_some]
    unfold descend
    cases openClaim rt v with
    | error e => rfl
    | ok opened =>
      simp only [bind, Except.bind, propertyOf]
      split
      · split
        · rename_i hlookup
          rw [hlookup]
          rfl
        · rename_i hlookup
          rw [hlookup]
      · rfl

theorem extractClaimValue_short (hnone : claims.lookup mapping = none) (h : (split '.' mapping).length ≤ 2) :
    extractClaimValue rt claims mapping = nodeValue rt <$> descend rt (.obj claims) (split '.' mapping) := by
  rcases split_length h with hsplit | ⟨first, property, hsplit⟩
  · rw [hsplit, descend_obj, hnone]
    cases hempty : mapping.isEmpty with
    | true =>
      simp only [extractClaimValue, hempty, Bool.or_true, if_true]
      rfl
    | false =>
      rw [extractClaimValue_eq hempty, hnone, hsplit]
      rfl
  · rw [extractClaimValue_eq (named_of_split hsplit), hnone, hsplit, descend_property]
    have hopened : ∀ v, (do return claimProperty rt property (← openClaim rt v)) =
        nodeValue rt <$> (do return propertyOf property (← openClaim rt v)) := by
      intro v
      simp only [claimProperty_eq]
      cases openClaim rt v <;> rfl
    rw [← hopened]
    dsimp only
    split
    · rename_i hnull
      rw [hnull]
      rfl
    · rfl

theorem extractRolesFromClaim_short (hnone : claims.lookup mapping = none) (h : (split '.' mapping).length ≤ 2) :
    extractRolesFromClaim rt claims mapping = nodeRoles <$> descend rt (.obj claims) (split '.' mapping) := by
  have hliteral : literalRoles rt (claims.get mapping) = [] := by
    rw [Fields.get, hnone]
    rfl
  rcases split_length h with hsplit | ⟨first, property, hsplit⟩
  · rw [hsplit, descend_obj, hnone]
    cases hempty : mapping.isEmpty with
    | true =>
      simp only [extractRolesFromClaim, hempty, Bool.or_true, if_true]
      rfl
    | false =>
      rw [extractRolesFromClaim_eq hempty, hliteral, hsplit]
      rfl
  · rw [extractRolesFromClaim_eq (named_of_split hsplit), hliteral, hsplit, descend_property]
    dsimp only [List.getLastD_cons, List.getLastD_nil]
    simp only [nestedRoles_eq]
    cases openClaim rt (claims.get first) <;> rfl

end Short

/-! ## Where they leave the path -/

section Astray
variable {rt : Runtime} {claims : Fields} {mapping first property third : String} {rest : List String} {v : Json}

theorem lookup_single {name key : String} (h : key ≠ name) : List.lookup name [(key, v)] = none := by
  rw [List.lookup_cons, beq_false_of_ne (Ne.symm h)]
  rfl

/-- The value of a claim's property, however long the path goes on. -/
theorem extractClaimValue_second (h : split '.' mapping = first :: property :: rest) :
    extractClaimValue rt [(first, .obj [(property, v)])] mapping = .ok (printed rt v) := by
  rw [extractClaimValue_eq (named_of_split h), lookup_single (ne_of_split h), h]
  simp only [Fields.get, List.lookup_cons_self, Option.getD_some]
  simp only [openClaim, bind, Except.bind, claimProperty, List.lookup_cons_self, pure, Except.pure]

theorem extractClaimValue_text (h : split '.' mapping = first :: property :: rest) {s : String} {e : Exc}
    (hopen : openClaim rt (.str s) = .error e) :
    extractClaimValue rt [(first, .str s)] mapping = .error e := by
  rw [extractClaimValue_eq (named_of_split h), lookup_single (ne_of_split h), h]
  simp only [Fields.get, List.lookup_cons_self, Option.getD_some, hopen]
  rfl

theorem descend_second (third : String) (rest : List String) :
    descend rt (.obj [(first, .obj [(property, v)])]) (first :: property :: third :: rest) =
      descend rt v (third :: rest) := by
  rw [descend_obj, List.lookup_cons_self]
  dsimp only
  rw [descend_obj, List.lookup_cons_self]

/-- With a third segment the value is never the node's: whatever that is, there are claims with the same node at
the end of the path that read otherwise. -/
theorem not_pathRule_long (hnone : claims.lookup mapping = none)
    (h : split '.' mapping = first :: property :: third :: rest) :
    ¬ PathRule rt (extractClaimValue rt) "" claims mapping := by
  intro hrule
  have hsame : ∀ v, descend rt v (third :: rest) = descend rt (.obj claims) (split '.' mapping) →
      .ok (printed rt v) = extractClaimValue rt claims mapping := by
    intro v hv
    have hread := hrule.followed [(first, .obj [(property, v)])] hnone (lookup_single (ne_of_split h))
    rw [extractClaimValue_second h] at hread
    apply hread
    rw [← hv, h]
    exact descend_second third rest
  cases hnode : descend rt (.obj claims) (split '.' mapping) with
  | ok found =>
    obtain ⟨v, v', hv, hv', hne⟩ := @descend_twice rt found third rest
    have hprinted := (hsame v (hv.trans hnode.symm)).trans (hsame v' (hv'.trans hnode.symm)).symm
    exact hne (Except.ok.inj hprinted)
  | error e =>
    obtain ⟨s, hopen⟩ := descend_error hnode
    have hdeep : descend rt (.str s) (third :: rest) = .error e := by
      unfold descend
      rw [hopen]
      rfl
    have hshallow : descend rt (.obj [(first, .str s)]) (split '.' mapping) = .error e := by
      rw [h, descend_obj, List.lookup_cons_self]
      dsimp only
      unfold descend
      rw [hopen]
      rfl
    have hraised := hrule.followed [(first, .str s)] hnone (lookup_single (ne_of_split h)) (hshallow.trans hnode.symm)
    rw [extractClaimValue_text h hopen, ← hsame (.str s) (hdeep.trans hnode.symm)] at hraised
    cases hraised

/-- Roles that are not listed under their own name are looked for on the path. -/
theorem not_pathRule_unlisted (hv : claims.lookup mapping = some v) (hempty : literalRoles rt v = [])
    (h : split '.' mapping = first :: property :: rest) :
    ¬ PathRule rt (extractRolesFromClaim rt) [] claims mapping := by
  intro hrule
  have hread : ∀ others : Fields, others.lookup mapping = some v → extractRolesFromClaim rt others mapping =
      (do return nestedRoles ((property :: rest).getLastD property) (← openClaim rt (others.get first))) := by
    intro others hothers
    have hget : others.get mapping = v := by rw [Fields.get, hothers]; rfl
    rw [extractRolesFromClaim_eq (named_of_split h), hget, hempty, h]
    rfl
  have hself : ∀ others : Fields, List.lookup mapping ((mapping, v) :: others) = some v :=
    fun others => List.lookup_cons_self
  have hother : ∀ others : Fields, List.lookup first ((mapping, v) :: others) = others.lookup first := by
    intro others
    rw [List.lookup_cons, beq_false_of_ne (ne_of_split h)]
  have hnothing := hrule.named v [(mapping, v)] hv (hself [])
  have hroles := hrule.named v
    [(mapping, v), (first, .obj [((property :: rest).getLastD property, .arr [.str "x"])])] hv (hself _)
  rw [← hnothing, hread _ (hself _), hread _ (hself _), Fields.get, Fields.get, hother, hother,
    List.lookup_cons_self] at hroles
  simp only [List.lookup_nil, Option.getD_none, Option.getD_some, openClaim, bind, Except.bind, nestedRoles,
    List.lookup_cons_self, pure, Except.pure, Except.ok.injEq] at hroles
  cases hroles

end Astray

/-! ## Which mappings keep to it -/

section Rule
variable {rt : Runtime} {claims : Fields} {mapping : String} {v : Json}

theorem extractClaimValue_named (h : claims.lookup mapping = some v) :
    extractClaimValue rt claims mapping = .ok (if mapping.isEmpty then "" else printed rt v) := by
  cases hempty : mapping.isEmpty with
  | true => simp only [extractClaimValue, hempty, Bool.or_true, if_true]
  | false =>
    rw [extractClaimValue_eq hempty, h]
    rfl

theorem extractRolesFromClaim_named (h : claims.lookup mapping = some v)
    (hlisted : literalRoles rt v ≠ [] ∨ '.' ∉ mapping.toList) :
    extractRolesFromClaim rt claims mapping = .ok (if mapping.isEmpty then [] else literalRoles rt v) := by
  cases hempty : mapping.isEmpty with
  | true => simp only [extractRolesFromClaim, hempty, Bool.or_true, if_true]
  | false =>
    have hget : claims.get mapping = v := by
      rw [Fields.get, h]
      rfl
    rw [extractRolesFromClaim_eq hempty, hget]
    cases hroles : literalRoles rt v with
    | cons role roles => rfl
    | nil =>
      rw [split_of_not_mem (hlisted.resolve_left (fun hne => hne hroles))]
      rfl

/-- A resolver keeps to the rule when it reads what the claim holds, and else what the node holds. -/
theorem pathRule_of_reads {α : Type} {read : Fields → String → Except Exc α} {listed : Json → α}
    {render : Option Json → α}
    (hnamed : ∀ v, claims.lookup mapping = some v → ∀ others : Fields, others.lookup mapping = some v →
      read others mapping = .ok (listed v))
    (hpath : claims.lookup mapping = none → ∀ others : Fields, others.lookup mapping = none →
      read others mapping = render <$> descend rt (.obj others) (split '.' mapping)) :
    PathRule rt read (render none) claims mapping where
  named v others h h' := (hnamed v h others h').trans (hnamed v h claims h).symm
  followed others h h' hnode := by
    rw [hpath h others h', hpath h claims h, hnode]
  nowhere h hnode := by
    rw [hpath h claims h, hnode]
    rfl

/-- The two resolvers keep to the documented rule, and so read the same place, but for paths of three segments
and more and for a dotted claim that lists no roles itself. -/
theorem path_rule_iff (rt : Runtime) (claims : Fields) (mapping : String) :
    BothFollow rt claims mapping ↔
      (∀ v, claims.lookup mapping = some v → literalRoles rt v ≠ [] ∨ '.' ∉ mapping.toList) ∧
        (claims.lookup mapping = none → (split '.' mapping).length ≤ 2) := by
  constructor
  · intro h
    obtain ⟨hvalue, hroles⟩ := h
    refine ⟨fun v hv => ?_, fun hnone => ?_⟩
    · by_cases hlisted : literalRoles rt v = []
      · refine .inr (fun hdot => ?_)
        obtain ⟨first, property, rest, hsplit⟩ := split_of_mem hdot
        exact not_pathRule_unlisted hv hlisted hsplit hroles
      · exact .inl hlisted
    · cases hsplit : split '.' mapping with
      | nil => simp
      | cons first rest =>
        match rest with
        | [] => simp
        | [property] => simp
        | property :: third :: rest => exact absurd hvalue (not_pathRule_long hnone hsplit)
  · intro h
    obtain ⟨hlisted, hshort⟩ := h
    constructor
    · refine @pathRule_of_reads rt claims mapping _ _ (fun v => if mapping.isEmpty then "" else printed rt v)
        (nodeValue rt) ?_ ?_
      · intro v _ others hothers
        exact extractClaimValue_named hothers
      · intro hnone others hothers
        exact extractClaimValue_short hothers (hshort hnone)
    · refine @pathRule_of_reads rt claims mapping _ _ (fun v => if mapping.isEmpty then [] else literalRoles rt v)
        nodeRoles ?_ ?_
      · intro v hv others hothers
        exact extractRolesFromClaim_named hothers (hlisted v hv)
      · intro hnone others hothers
        exact extractRolesFromClaim_short hothers (hshort hnone)

end Rule

/-- The mapping names a path of three, and the value is that of the first two. -/
theorem value_off_the_path : ¬ ∀ (rt : Runtime) (claims : Fields) (mapping : String), BothFollow rt claims mapping := by
  intro hall
  have hrule := (hall asciiRuntime [("realm", .obj [("access", .int 1)])] "realm.access.roles").1
  have hempty := hrule.nowhere rfl rfl
  exact absurd (Except.ok.inj hempty) (by decide)

end BlocksGenesis.Auth
