import BlocksGenesis.Auth.Context
import BlocksGenesis.Mongo.Collection

namespace BlocksGenesis.Auth
open Python

/-! ## The tenant's database -/

/-- A database handle of the process-wide client, which is pymongo's. -/
structure Database where
  documents : String → Except Exc (List Mongo.Document)

def Database.collection (database : Database) (name : String) : Mongo.Collection :=
  ⟨.pymongo, database.documents name⟩

/-- Where tenants are placed (database name and connection string), and the clusters a
connection string reaches. -/
structure MongoDbContextProvider where
  getDbConnection : String → Except Exc (Option String × Option String)
  getClient : String → Except Exc (String → Database)

namespace MongoDbContextProvider

def getDatabaseByConnection (provider : MongoDbContextProvider) (connectionString databaseName : String) :
    Except Exc Database := do
  if connectionString.isEmpty then
    throw (.valueError "Connection string cannot be empty or None.")
  if databaseName.isEmpty then
    throw (.valueError "Database name cannot be empty or None.")
  return (← provider.getClient connectionString) databaseName

def getDatabase (provider : MongoDbContextProvider) (context : Option BlocksContext) (tenantId : String) :
    Except Exc (Option Database) :=
  let tenantId := if tenantId.isEmpty then (context.map BlocksContext.tenantId).getD "" else tenantId
  if tenantId.isEmpty then .ok none
  else do
    match ← provider.getDbConnection tenantId with
    | (some dbName, some connectionString) =>
      if connectionString.isEmpty || dbName.isEmpty then
        throw (.valueError ("Missing connection info for tenant " ++ tenantId))
      return some (← provider.getDatabaseByConnection connectionString dbName)
    | _ => throw (.valueError ("Missing connection info for tenant " ++ tenantId))

def getCollection (provider : MongoDbContextProvider) (context : Option BlocksContext)
    (collectionName tenantId : String) : Except Exc Mongo.Collection := do
  match ← provider.getDatabase context tenantId with
  | none => throw (.runtimeError "No database found for tenant")
  | some database => return database.collection collectionName

/-- Whatever the tenant, the collection handed out is pymongo's. -/
theorem getCollection_driver {provider : MongoDbContextProvider} {context : Option BlocksContext}
    {name tenantId : String} {collection : Mongo.Collection}
    (h : provider.getCollection context name tenantId = .ok collection) : collection.driver = .pymongo := by
  obtain ⟨database, _, h⟩ := bind_ok_iff.mp h
  cases database with
  | none => simp [throw, throwThe, MonadExceptOf.throw] at h
  | some database =>
    rw [← pure_ok_iff.mp h]
    rfl

end MongoDbContextProvider

/-! ## The access check -/

/-- The tenant whose permissions count: the home tenant while impersonating, else the
context's own; the argument when the context names none. -/
def effectiveTenant (context : Option BlocksContext) (tenantId : String) : String :=
  let own := match context with
    | none => ""
    | some bc =>
      if bc.impersonated && !bc.originalTenantId.isEmpty then bc.originalTenantId else bc.tenantId
  if own.isEmpty then tenantId else own

def accessOrganization (context : Option BlocksContext) : String :=
  match context with
  | none => "default"
  | some bc => if blank bc.organizationId then "default" else bc.organizationId

/-- The filter of the access check, with a disjunct for each list that is not empty. -/
def accessQuery (organizationId resourceName : String) (roles permissions : List String) : Mongo.Query :=
  Mongo.all [
    Mongo.eq "OrganizationId" organizationId,
    Mongo.any (
      (if permissions.isEmpty then [] else [Mongo.isIn "Resource" permissions]) ++
      (if roles.isEmpty then [] else
        [Mongo.all [Mongo.eq "Resource" resourceName, Mongo.isIn "Roles" roles]]))]

/-- `await collection.count_documents(query) > 0`. -/
def anyCounted (collection : Mongo.Collection) (query : Mongo.Query) : Except Exc Bool := do
  let count ← collection.countDocuments query >>= Mongo.Returned.await
  return decide (count > 0)

def findPermission (provider : MongoDbContextProvider) (context : Option BlocksContext)
    (resourceName : String) (roles permissions : List String) (tenantId : String) : Except Exc Bool :=
  let effectiveTenantId := effectiveTenant context tenantId
  if effectiveTenantId.isEmpty then .ok false
  else do
    let collection ← provider.getCollection context "Permissions" effectiveTenantId
    if roles.isEmpty && permissions.isEmpty then
      return false
    anyCounted collection (accessQuery (accessOrganization context) resourceName roles permissions)

/-- Whether the user may access a resource. Every error is a denial. -/
def checkPermission (provider : MongoDbContextProvider) (context : Option BlocksContext)
    (resourceName : String) (roles permissions : List String) (tenantId : String) : Bool :=
  match findPermission provider context resourceName roles permissions tenantId with
  | .ok hasAccess => hasAccess
  | .error _ => false

/-- The quota check returns before it reads anything. -/
def checkQuota (_ : BlocksContext) (_ : String) : Bool := true

/-- The access check of a protected endpoint. The context checked and the one in the flow are
two arguments here; `authorize` passes the flow's own. -/
def checkStandardAccess (provider : MongoDbContextProvider) (ambient context : Option BlocksContext)
    (resourceName : String) : Bool :=
  if resourceName.isEmpty then false
  else match context with
    | none => false
    | some c =>
      if c.tenantId.isEmpty then false
      else if !checkQuota c resourceName then false
      else checkPermission provider ambient resourceName c.roles c.permissions
        (if c.impersonated then c.originalTenantId else c.tenantId)

/-! ## What opens a resource -/

/-- A document opens a resource to a caller: it is of the caller's organization, it is about
that resource, and the caller holds the resource as a permission or one of its roles. -/
structure Grants (organizationId resourceName : String) (roles permissions : List String)
    (d : Mongo.Document) : Prop where
  organization : Mongo.eq "OrganizationId" organizationId d = true
  resource : Mongo.eq "Resource" resourceName d = true
  held : resourceName ∈ permissions ∨ Mongo.isIn "Roles" roles d = true

/-- The documents of the Permissions collection of the caller's effective tenant, none when
there is no such collection to read. -/
def permissionsOf (provider : MongoDbContextProvider) (context : BlocksContext) : List Mongo.Document :=
  match provider.getCollection (some context) "Permissions" (effectiveTenant (some context) "") >>=
      Mongo.Collection.documents with
  | .ok documents => documents
  | .error _ => []

/-- The check says yes exactly when a document opens the resource to the caller. -/
def ExactAccess (provider : MongoDbContextProvider) (context : BlocksContext) (resourceName : String) :
    Prop :=
  checkStandardAccess provider (some context) (some context) resourceName = true ↔
    ∃ d ∈ permissionsOf provider context,
      Grants (accessOrganization (some context)) resourceName context.roles context.permissions d

theorem isIn_nil (field : String) (d : Mongo.Document) : Mongo.isIn field [] d = false := by
  have hitem : ∀ item : Json, item.inStrings [] = false := by
    intro item
    cases item <;> simp [Json.inStrings]
  unfold Mongo.isIn Mongo.among
  split
  · simp [hitem]
  · exact hitem _

/-- What the filter says of a document. The permissions are compared with the document's
resource, never with the resource asked for. -/
theorem accessQuery_iff {organizationId resourceName : String} {roles permissions : List String}
    {d : Mongo.Document} :
    accessQuery organizationId resourceName roles permissions d = true ↔
      Mongo.eq "OrganizationId" organizationId d = true ∧
        (Mongo.isIn "Resource" permissions d = true ∨
          Mongo.eq "Resource" resourceName d = true ∧ Mongo.isIn "Roles" roles d = true) := by
  have hnil := fun field => isIn_nil field d
  cases permissions <;> cases roles <;> simp [accessQuery, Mongo.all, Mongo.any, hnil]

/-- Were the count awaitable, no document that opens the resource would be missed. -/
theorem accessQuery_of_grants {organizationId resourceName : String} {roles permissions : List String}
    {d : Mongo.Document} (h : Grants organizationId resourceName roles permissions d) :
    accessQuery organizationId resourceName roles permissions d = true := by
  refine accessQuery_iff.mpr ⟨h.organization, ?_⟩
  rcases h.held with hp | hr
  · left
    have hitem : ∀ item : Json, item.inStrings [resourceName] = true → item.inStrings permissions = true := by
      intro item hitem
      cases item with
      | str s =>
        simp only [Json.inStrings, List.contains_iff_mem, List.mem_singleton] at hitem ⊢
        rwa [hitem]
      | _ => simp [Json.inStrings] at hitem
    have hres := h.resource
    unfold Mongo.eq Mongo.among at hres
    unfold Mongo.isIn Mongo.among
    split at hres
    · rename_i items heq
      obtain ⟨item, hm, hi⟩ := List.any_eq_true.mp hres
      exact List.any_eq_true.mpr ⟨item, hm, hitem item hi⟩
    · exact hitem _ hres
  · exact .inr ⟨h.resource, hr⟩

/-- Were the count awaitable, a permission for one resource would open every other one: the
filter is met by a document about any resource the caller holds as a permission. -/
theorem accessQuery_other_resource {organizationId held asked : String} {roles permissions : List String}
    {d : Mongo.Document} (hp : held ∈ permissions)
    (horg : Mongo.eq "OrganizationId" organizationId d = true)
    (hres : d.get "Resource" = .str held) :
    accessQuery organizationId asked roles permissions d = true := by
  refine accessQuery_iff.mpr ⟨horg, .inl ?_⟩
  simp [Mongo.isIn, Mongo.among, hres, Json.inStrings, hp]

/-- A plain count is awaited, so the check that reads it always fails. -/
theorem checkPermission_denies (provider : MongoDbContextProvider) (context : Option BlocksContext)
    (resourceName : String) (roles permissions : List String) (tenantId : String) :
    checkPermission provider context resourceName roles permissions tenantId = false := by
  have hfind : findPermission provider context resourceName roles permissions tenantId ≠ .ok true := by
    intro h
    unfold findPermission at h
    dsimp only at h
    split at h
    · simp at h
    · obtain ⟨collection, hc, h⟩ := bind_ok_iff.mp h
      split at h
      · simp at h
      · obtain ⟨count, hn, _⟩ := bind_ok_iff.mp h
        exact Mongo.await_pymongo (MongoDbContextProvider.getCollection_driver hc) hn
  unfold checkPermission
  split
  · rename_i hasAccess hb
    cases hasAccess with
    | false => rfl
    | true => exact absurd hb hfind
  · rfl

theorem checkStandardAccess_denies (provider : MongoDbContextProvider)
    (ambient context : Option BlocksContext) (resourceName : String) :
    checkStandardAccess provider ambient context resourceName = false := by
  unfold checkStandardAccess
  split
  · rfl
  · cases context with
    | none => rfl
    | some c =>
      dsimp only
      split
      · rfl
      · split
        · rfl
        · exact checkPermission_denies ..

/-- The check is exact on the collections in which nothing opens the resource. -/
theorem exactAccess_iff (provider : MongoDbContextProvider) (context : BlocksContext)
    (resourceName : String) :
    ExactAccess provider context resourceName ↔
      ∀ d ∈ permissionsOf provider context,
        ¬ Grants (accessOrganization (some context)) resourceName context.roles context.permissions d := by
  unfold ExactAccess
  rw [checkStandardAccess_denies]
  constructor
  · intro hexact d hd hgrants
    exact Bool.false_ne_true (hexact.mpr ⟨d, hd, hgrants⟩)
  · intro hnone
    refine ⟨fun h => absurd h Bool.false_ne_true, ?_⟩
    intro hsome
    obtain ⟨d, hd, hgrants⟩ := hsome
    exact absurd hgrants (hnone d hd)

/-! ## An administrator -/

def adminContext : BlocksContext where
  tenantId := "acme"
  roles := ["admin"]

def adminPermission : Mongo.Document :=
  [("OrganizationId", .str "default"), ("Resource", .str "invoices"), ("Roles", .arr [.str "admin"])]

def acmeDatabase : MongoDbContextProvider where
  getDbConnection _ := .ok (some "acme", some "mongodb://root")
  getClient _ := .ok (fun _ => ⟨fun _ => .ok [adminPermission]⟩)

/-- The document that opens the resource is there, and the answer is a denial. -/
theorem access_denied_to_admin :
    checkStandardAccess acmeDatabase (some adminContext) (some adminContext) "invoices" = false ∧
      ¬ ExactAccess acmeDatabase adminContext "invoices" := by
  refine ⟨by decide, ?_⟩
  intro hexact
  have hgrants : Grants "default" "invoices" ["admin"] [] adminPermission :=
    ⟨by decide, by decide, .inr (by decide)⟩
  exact absurd (hexact.mpr ⟨adminPermission, List.mem_singleton.mpr rfl, hgrants⟩) (by decide)

end BlocksGenesis.Auth
