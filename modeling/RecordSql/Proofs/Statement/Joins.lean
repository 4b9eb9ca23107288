import RecordSql.Proofs.Registry.Stranding
import RecordSql.Proofs.Statement.Projection

/-! Joins: what a SELECT makes of the relations that are requested of it. Every request adds the
columns of its target and one clause, in the order of the requests, or else the first request that
leads nowhere ends the build before its conditions are looked at. -/

namespace RecordSql

open RecordSql.Action

/-! ### Requests -/

/-- What a joined relation is put together from: the relation, the table that it leads to, the join
type and the further predicate. -/
structure Join.Parts where
  relation : Relation
  target : Table
  joinType : JoinType
  extra : String

namespace Join.Parts

/-- The columns of the target, under the names that the property of the relation gives them. -/
def columns (p : Parts) (separator : String) : List String :=
  p.target.columns.map fun c => p.relation.targetTable ++ "." ++ c.name ++ " AS " ++
    p.relation.propertyKey ++ separator ++ c.name

def clause (p : Parts) (tableAlias : String) : String :=
  p.joinType.keyword ++ " " ++ p.relation.targetTable ++ " ON " ++ tableAlias ++ "." ++
    p.relation.selfReference ++ " = " ++ p.relation.targetTable ++ "." ++ p.relation.targetColumn ++
    if p.extra = "" then "" else " AND " ++ p.extra

end Join.Parts

namespace JoinRequest

variable (ctx : Context) (config : Config) (t : Table) (request : JoinRequest)

/-- A request whose relation exists and leads to a registered table. -/
def Known : Prop :=
  ∃ r entity target, t.relation? ctx.objects request.relation = .ok (some r) ∧
    r.target.resolve ctx.scope = .ok entity ∧ ctx.registry.table ctx.objects entity = .ok target

/-- A request with what it comes to: its own join type or the configured one, and the text of its
callable, or none. -/
structure Leads (p : Join.Parts) : Prop where
  relation : t.relation? ctx.objects request.relation = .ok (some p.relation)
  target : ∃ entity, p.relation.target.resolve ctx.scope = .ok entity ∧
    ctx.registry.table ctx.objects entity = .ok p.target
  joinType : p.joinType = request.joinType.getD config.joinType
  extra : request.on.elim (.ok "") (· p.relation.targetTable) = .ok p.extra

/-- How a request is refused: its relation does not exist, its target is not registered, or the
target is no value that a table can be looked up for. -/
inductive Refused : Error → Prop
  | noRelation (h : t.relation? ctx.objects request.relation = .ok none) :
    Refused (.noRelation t.name request.relation)
  | notRegistered {r : Relation} {entity : Value}
    (h : t.relation? ctx.objects request.relation = .ok (some r))
    (he : r.target.resolve ctx.scope = .ok entity)
    (ht : ctx.registry.table ctx.objects entity = .error (.notRegistered entity)) :
    Refused (.notRegistered entity)
  | noKey {r : Relation} {entity : Value} {f : Fault}
    (h : t.relation? ctx.objects request.relation = .ok (some r))
    (he : r.target.resolve ctx.scope = .ok entity) (hk : entity.key ctx.objects = .error f) :
    Refused (.fault f)

/-- A request whose relation can be looked up, as texts always can, and whose resolver and callable
do not fail. -/
structure Answers : Prop where
  named : ∃ o, t.relation? ctx.objects request.relation = .ok o
  resolved : ∀ r, t.relation? ctx.objects request.relation = .ok (some r) →
    ∃ entity, r.target.resolve ctx.scope = .ok entity
  called : ∀ r, t.relation? ctx.objects request.relation = .ok (some r) →
    ∃ extra, request.on.elim (.ok "") (· r.targetTable) = (.ok extra : Except Fault String)

/-- A request whose relation can be written, and whose target can be looked up and named, as classes
can. -/
structure Presentable : Prop where
  written : ∃ s, request.relation.written ctx.objects = .ok s
  lookedUp : ∀ r entity, t.relation? ctx.objects request.relation = .ok (some r) →
    r.target.resolve ctx.scope = .ok entity → ∃ k, entity.key ctx.objects = .ok k
  named : ∀ r entity, t.relation? ctx.objects request.relation = .ok (some r) →
    r.target.resolve ctx.scope = .ok entity →
    ∃ label s, entity.entityName ctx.objects = .ok label ∧ label.written ctx.objects = .ok s

variable {ctx config t request}

theorem relation?_mem {name : String} {r : Relation} (hname : request.relation = .text name)
    (h : t.relation? ctx.objects request.relation = .ok (some r)) : r ∈ t.relations := by
  rw [hname] at h
  exact List.mem_of_find?_eq_some (Value.sought_eq_ok h).symm

theorem presentable_of_classes {name : String} (hname : request.relation = .text name)
    (h : ∀ r ∈ t.relations, ∃ c, r.target.resolve ctx.scope = .ok (.cls c)) :
    request.Presentable ctx t := by
  have hcls {r : Relation} {entity : Value}
      (hr : t.relation? ctx.objects request.relation = .ok (some r))
      (he : r.target.resolve ctx.scope = .ok entity) : ∃ c, entity = .cls c := by
    obtain ⟨c, hc⟩ := h r (relation?_mem hname hr)
    exact ⟨c, Except.ok.inj (he.symm.trans hc)⟩
  refine ⟨⟨name, hname ▸ rfl⟩, fun r entity hr he => ?_, fun r entity hr he => ?_⟩
  · obtain ⟨c, rfl⟩ := hcls hr he
    exact ⟨_, Value.key_cls ctx.objects c⟩
  · obtain ⟨c, rfl⟩ := hcls hr he
    exact ⟨_, _, Value.entityName_cls ctx.objects c, rfl⟩

/-- Such a request is refused for a relation that is not known or for a target that is not
registered. The error reaches the caller as it is. -/
theorem Refused.settled {e : Error} (h : request.Refused ctx t e)
    (hp : request.Presentable ctx t) :
    (e.family = .relation ∨ e.family = .notFound) ∧ e.settled ctx.objects = e := by
  cases h with
  | noRelation hr =>
    obtain ⟨s, hs⟩ := hp.written
    refine ⟨.inl rfl, ?_⟩
    rw [Error.settled, Error.message, hs]
    rfl
  | notRegistered hr he ht =>
    obtain ⟨label, s, hlabel, hs⟩ := hp.named _ _ hr he
    refine ⟨.inr rfl, ?_⟩
    rw [Error.settled, Error.message, hlabel, ok_bind, hs]
    rfl
  | noKey hr he hk =>
    obtain ⟨k, hk'⟩ := hp.lookedUp _ _ hr he
    rw [hk] at hk'
    cases hk'

theorem answers_of_text {name : String} (hname : request.relation = .text name)
    (h : ∀ r ∈ t.relations, ∃ entity, r.target.resolve ctx.scope = .ok entity)
    (hon : ∀ f, request.on = some f → ∀ table, ∃ extra, f table = .ok extra) :
    request.Answers ctx t where
  named := ⟨_, hname ▸ Value.sought_text ..⟩
  resolved r hr := h r (relation?_mem hname hr)
  called r _ := by
    cases h : request.on with
    | none => exact ⟨"", rfl⟩
    | some f => exact hon f h r.targetTable

theorem Answers.exists_leads (h : request.Answers ctx t) (hk : request.Known ctx t)
    (config : Config) : ∃ p, request.Leads ctx config t p := by
  obtain ⟨r, entity, target, hr, he, ht⟩ := hk
  obtain ⟨extra, hextra⟩ := h.called r hr
  exact ⟨⟨r, target, request.joinType.getD config.joinType, extra⟩, hr, ⟨entity, he, ht⟩, rfl,
    hextra⟩

/-- A request is known or refused. -/
theorem Answers.known_or_refused (h : request.Answers ctx t) :
    request.Known ctx t ∨ ∃ e, request.Refused ctx t e := by
  obtain ⟨relation, hrelation⟩ := h.named
  cases relation with
  | none => exact .inr ⟨_, .noRelation hrelation⟩
  | some r =>
    obtain ⟨entity, he⟩ := h.resolved r hrelation
    cases ht : ctx.registry.table ctx.objects entity with
    | ok target => exact .inl ⟨r, entity, target, hrelation, he, ht⟩
    | error e =>
      obtain rfl | ⟨f, hf, rfl⟩ := Registry.table_eq_error ht
      · exact .inr ⟨_, .notRegistered hrelation he ht⟩
      · exact .inr ⟨_, .noKey hrelation he hf⟩

end JoinRequest

namespace Join

variable {ctx : Context} {config : Config} {t : Table} {tableAlias : String}
  {request : JoinRequest}

/-- The clause with its predicate behind one more `ON`. -/
theorem clause_eq (p : Parts) (tableAlias : String) :
    p.joinType.keyword ++ " " ++ p.relation.targetTable ++ " ON " ++
      condition tableAlias p.relation p.extra = p.clause tableAlias := by
  rw [condition, Parts.clause]
  by_cases h : p.extra = ""
  · simp only [h, if_true, String.append_assoc, String.append_empty]
  · simp only [h, if_false, String.append_assoc]

theorem expand_of_leads {p : Parts} (h : request.Leads ctx config t p) :
    expand ctx config t tableAlias request =
      .ok ⟨p.columns config.separator, p.clause tableAlias⟩ := by
  obtain ⟨entity, he, ht⟩ := h.target
  have hextra : extra request.on p.relation = .ok p.extra := by
    have hcalled := h.extra
    cases hon : request.on with
    | none =>
      rw [hon] at hcalled
      exact congrArg Except.ok (Except.ok.inj hcalled)
    | some f =>
      rw [hon] at hcalled
      exact mapError_eq_ok.mpr hcalled
  simp only [expand, expandWith, expandBy, expansion, h.relation, he, ht, hextra, Except.mapError,
    ok_bind, ← h.joinType, clause_eq]
  rfl

theorem expand_of_refused {e : Error} (h : request.Refused ctx t e) :
    expand ctx config t tableAlias request = .error e := by
  cases h with
  | noRelation h =>
    simp only [expand, expandWith, expandBy, h, Except.mapError, ok_bind]
    rfl
  | notRegistered h he ht =>
    simp only [expand, expandWith, expandBy, expansion, h, he, ht, Except.mapError, ok_bind,
      error_bind]
  | noKey h he hk =>
    have ht : ctx.registry.table ctx.objects _ = .error _ :=
      bind_eq_error.mpr (.inl (mapError_eq_error.mpr ⟨_, hk, rfl⟩))
    simp only [expand, expandWith, expandBy, expansion, h, he, ht, Except.mapError, ok_bind,
      error_bind]

/-- A request is expanded just if it is known. -/
theorem exists_expand_iff (h : request.Answers ctx t) :
    (∃ j, expand ctx config t tableAlias request = .ok j) ↔ request.Known ctx t := by
  constructor
  · rintro ⟨j, hj⟩
    obtain hknown | ⟨e, he⟩ := h.known_or_refused
    · exact hknown
    · rw [expand_of_refused he] at hj
      cases hj
  · intro hknown
    obtain ⟨p, hp⟩ := h.exists_leads hknown config
    exact ⟨_, expand_of_leads hp⟩

/-- Requests that lead somewhere are expanded one after the other. -/
theorem expand_all {requests : List JoinRequest} {ps : List Parts}
    (h : List.Forall₂ (JoinRequest.Leads ctx config t) requests ps) :
    requests.mapM (expand ctx config t tableAlias) =
      .ok (ps.map fun p => ⟨p.columns config.separator, p.clause tableAlias⟩) := by
  apply mapM_eq_ok.mpr
  apply List.forall₂_map_right_iff.mpr
  exact h.imp fun request p hp => expand_of_leads hp

end Join

namespace Select

/-! ### Builds -/

variable {s : Select} {ctx : Context} {t : Table} {tableAlias : String} (feeds : Feeds)

/-- The alias as it is given, or else the name of the table. -/
def given (s : Select) (t : Table) : Value :=
  if s.tableAlias.truthy then s.tableAlias else .text t.name

/-- A build up to its joins, with the table and its alias known. -/
theorem build_joins (ht : ctx.registry.table ctx.objects s.entity = .ok t)
    (ha : Where.aliasOf ctx.objects t s.tableAlias = .ok tableAlias) :
    s.build ctx feeds = (do
      let joins ← (s.joins.mapM (Join.expand ctx s.config t tableAlias) : Except Error (List Join))
      let conditions ← Where.compile ctx s.config t s.conditions .tableName (s.given t)
      let ordering ← orderClause ctx.objects t tableAlias
        ((Assoc.values s.ordering).map fun e => (e.1, .ok e.2.label))
      let query := Statement.withWhere (head t tableAlias s.config.separator joins) conditions ++
        ordering ++ countClause .limit (s.limit.map toString) ++
        countClause .offset (s.offset.map toString)
      Action.report (.selectBuilt t.name joins.length conditions.params.length)
      return ⟨query, conditions.params⟩ : Action Feeds Statement) feeds := by
  rw [Where.aliasOf] at ha
  obtain ⟨isGiven, htruth, hwritten⟩ := bind_eq_ok.mp ha
  have htruthy : s.tableAlias.truthy = isGiven := (Value.truth_eq_ok htruth).symm
  rw [build, liftM_bind_run, ht]
  dsimp only
  rw [liftM_fault_bind_run, htruth, given, htruthy]
  dsimp only
  cases isGiven with
  | false =>
    cases hwritten
    rfl
  | true =>
    rw [if_pos rfl, liftM_fault_bind_run]
    have hwritten : s.tableAlias.written ctx.objects = .ok tableAlias := hwritten
    rw [hwritten]

/-- The statement up to its conditions, of requests that all lead somewhere. -/
theorem head_parts (t : Table) (tableAlias separator : String) (ps : List Join.Parts) :
    head t tableAlias separator (ps.map fun p => ⟨p.columns separator, p.clause tableAlias⟩) =
      " ".intercalate (("SELECT " ++ commaSeparated (project t tableAlias tableAlias separator ++
        ps.flatMap (·.columns separator)) ++ " FROM " ++ t.name ++ " " ++ tableAlias) ::
        ps.map (·.clause tableAlias)) := by
  simp only [head, List.flatMap_map, List.map_map, Function.comp_def]

/-- The first request that is not known ends the build. -/
theorem build_refused (ht : ctx.registry.table ctx.objects s.entity = .ok t)
    (ha : Where.aliasOf ctx.objects t s.tableAlias = .ok tableAlias)
    (hanswers : ∀ request ∈ s.joins, request.Answers ctx t)
    (h : ¬∀ request ∈ s.joins, request.Known ctx t) :
    ∃ before request after e, s.joins = before ++ request :: after ∧
      (∀ q ∈ before, q.Known ctx t) ∧ request.Refused ctx t e ∧
      s.build ctx feeds = ⟨.error e, feeds, []⟩ := by
  cases hj : s.joins.mapM (Join.expand ctx s.config t tableAlias) with
  | ok joins =>
    have hknown : ∀ request ∈ s.joins, request.Known ctx t := fun request hrequest =>
      (Join.exists_expand_iff (hanswers request hrequest)).mp
        (exists_mapM_eq_ok.mp ⟨joins, hj⟩ request hrequest)
    exact absurd hknown h
  | error e =>
    obtain ⟨before, request, after, hsplit, hbefore, he⟩ := mapM_eq_error.mp hj
    have hmem : ∀ q ∈ before, q ∈ s.joins := fun q hq => by simp [hsplit, hq]
    have hrequest : request ∈ s.joins := by simp [hsplit]
    refine ⟨before, request, after, e, hsplit, fun q hq => ?_, ?_, ?_⟩
    · exact (Join.exists_expand_iff (hanswers q (hmem q hq))).mp (hbefore q hq)
    · obtain hknown | ⟨e', he'⟩ := (hanswers request hrequest).known_or_refused
      · obtain ⟨j, hok⟩ := (Join.exists_expand_iff (hanswers request hrequest)).mpr hknown
        rw [he] at hok
        cases hok
      · rw [Join.expand_of_refused he'] at he
        cases he
        exact he'
    · rw [build_joins feeds ht ha, liftM_bind_run, hj]

/-- Requests that are all known are expanded, and the build goes on with its conditions. -/
theorem build_expanded (ht : ctx.registry.table ctx.objects s.entity = .ok t)
    (ha : Where.aliasOf ctx.objects t s.tableAlias = .ok tableAlias)
    {ps : List Join.Parts}
    (hleads : List.Forall₂ (JoinRequest.Leads ctx s.config t) s.joins ps) :
    let built := (s.build ctx feeds).result
    let compiled :=
      (Where.compile ctx s.config t s.conditions .tableName (s.given t) feeds).result
    let ordered := orderClause ctx.objects t tableAlias
      ((Assoc.values s.ordering).map fun e => (e.1, .ok e.2.label))
    (∀ e, compiled = .error e → built = .error e) ∧
    (∀ st f, compiled = .ok st → ordered = .error f → built = .error (.fault f)) ∧
    ∀ st o, compiled = .ok st → ordered = .ok o →
      built = .ok ⟨Statement.withWhere (head t tableAlias s.config.separator
        (ps.map fun p => ⟨p.columns s.config.separator, p.clause tableAlias⟩)) st ++ o ++
        countClause .limit (s.limit.map toString) ++ countClause .offset (s.offset.map toString),
        st.params⟩ := by
  intro built compiled ordered
  dsimp only [built]
  rw [build_joins feeds ht ha, liftM_bind_run, Join.expand_all hleads]
  dsimp only
  refine ⟨fun e he => ?_, fun st f hst hf => ?_, fun st o hst ho => ?_⟩
  · rw [bind_run_of_error he]
  · rw [bind_run_of_ok hst]
    dsimp only
    rw [liftM_fault_bind_run, show orderClause _ _ _ _ = _ from hf]
  · rw [bind_run_of_ok hst]
    dsimp only
    rw [liftM_fault_bind_run, show orderClause _ _ _ _ = _ from ho]
    rfl

/-- Joins are expanded in the order of their requests. A SELECT that asks for nothing else succeeds
just if every requested relation exists and leads to a registered table. Then the columns of all
targets follow those of the table, and there is one clause for each request; what the conditions and
the ordering come to is all that is left. Otherwise the first request that is refused ends the
build, whatever the conditions are; its error reaches the caller as it is if what it tells of can be
looked up and named. -/
theorem joins_expand (s : Select) (ctx : Context) (t : Table) (tableAlias : String) (feeds : Feeds)
    (ht : ctx.registry.table ctx.objects s.entity = .ok t)
    (ha : Where.aliasOf ctx.objects t s.tableAlias = .ok tableAlias)
    (hanswers : ∀ request ∈ s.joins, request.Answers ctx t) :
    let built := (s.build ctx feeds).result
    let bare : Select := { s with conditions := .null, ordering := [] }
    let compiled :=
      (Where.compile ctx s.config t s.conditions .tableName (s.given t) feeds).result
    let ordered := orderClause ctx.objects t tableAlias
      ((Assoc.values s.ordering).map fun e => (e.1, .ok e.2.label))
    ((∃ st, (bare.build ctx feeds).result = .ok st) ↔
      ∀ request ∈ s.joins, request.Known ctx t) ∧
    ((∀ request ∈ s.joins, request.Known ctx t) →
      ∃ ps, List.Forall₂ (JoinRequest.Leads ctx s.config t) s.joins ps ∧
        let columns := (t.columns.map fun c =>
            tableAlias ++ "." ++ c.name ++ " AS " ++ tableAlias ++ s.config.separator ++ c.name) ++
          ps.flatMap (·.columns s.config.separator)
        let start := "SELECT " ++ commaSeparated columns ++ " FROM " ++ t.name ++ " " ++ tableAlias
        (∀ e, compiled = .error e → built = .error e) ∧
        (∀ st f, compiled = .ok st → ordered = .error f → built = .error (.fault f)) ∧
        ∀ st o, compiled = .ok st → ordered = .ok o →
          built = .ok ⟨Statement.withWhere (" ".intercalate (start :: ps.map (·.clause tableAlias)))
            st ++ o ++ countClause .limit (s.limit.map toString) ++
            countClause .offset (s.offset.map toString), st.params⟩) ∧
    ((¬∀ request ∈ s.joins, request.Known ctx t) →
      ∃ before request after e, s.joins = before ++ request :: after ∧
        (∀ q ∈ before, q.Known ctx t) ∧ request.Refused ctx t e ∧
        s.build ctx feeds = ⟨.error e, feeds, []⟩ ∧
        (request.Presentable ctx t →
          (e.family = .relation ∨ e.family = .notFound) ∧ e.settled ctx.objects = e)) := by
  intro built bare compiled ordered
  have hleads (h : ∀ request ∈ s.joins, request.Known ctx t) :
      ∃ ps, List.Forall₂ (JoinRequest.Leads ctx s.config t) s.joins ps :=
    exists_forall₂_iff.mpr fun request hrequest =>
      (hanswers request hrequest).exists_leads (h request hrequest) s.config
  refine ⟨⟨fun ⟨st, hst⟩ => ?_, fun h => ?_⟩, fun h => ?_, fun h => ?_⟩
  · by_contra h
    obtain ⟨_, _, _, e, -, -, -, hrefused⟩ := build_refused (s := bare) feeds ht ha hanswers h
    rw [hrefused] at hst
    cases hst
  · obtain ⟨ps, hps⟩ := hleads h
    obtain ⟨-, -, hbuilt⟩ := build_expanded (s := bare) feeds ht ha hps
    exact ⟨_, hbuilt .empty "" rfl rfl⟩
  · obtain ⟨ps, hps⟩ := hleads h
    have hbuilt := build_expanded feeds ht ha hps
    rw [head_parts] at hbuilt
    exact ⟨ps, hps, hbuilt⟩
  · obtain ⟨before, request, after, e, hsplit, hbefore, he, hbuild⟩ :=
      build_refused feeds ht ha hanswers h
    exact ⟨before, request, after, e, hsplit, hbefore, he, hbuild, he.settled⟩

/-- Asks for the home of users, and once more for the home with a key that is positive. -/
def homeRequests : List JoinRequest :=
  [⟨.text "home", none, none⟩,
    ⟨.text "home", some .inner, some fun table => .ok (table ++ ".id > 0")⟩]

/-- Asks for the pets of users, of which nothing is known. -/
def petsRequest : JoinRequest := ⟨.text "pets", none, none⟩

/-- A selection of users with some joins and conditions. -/
def joinedUsers (requests : List JoinRequest) (conditions : Value) : Select :=
  { userSelect "home" with joins := requests, conditions }

theorem homeRequests_texts :
    ∀ request ∈ homeRequests ++ [petsRequest], ∃ name, request.relation = .text name := by
  simp [homeRequests, petsRequest]

theorem home_class : ∀ r ∈ (userTable "home").relations,
    ∃ c, r.target.resolve (userContext "home").scope = .ok (.cls c) :=
  List.forall_mem_singleton.mpr ⟨_, rfl⟩

theorem homeRequests_answer : ∀ request ∈ homeRequests ++ [petsRequest],
    request.Answers (userContext "home") (userTable "home") := by
  intro request hrequest
  obtain ⟨name, hname⟩ := homeRequests_texts request hrequest
  refine JoinRequest.answers_of_text hname (fun r hr => ?_) ?_
  · obtain ⟨c, hc⟩ := home_class r hr
    exact ⟨_, hc⟩
  · revert request
    simp [homeRequests, petsRequest]

theorem homeRequests_known : ∀ request ∈ homeRequests,
    request.Known (userContext "home") (userTable "home") := by
  simp only [homeRequests, List.forall_mem_cons]
  exact ⟨⟨_, _, addressTable, rfl, rfl, rfl⟩, ⟨_, _, addressTable, rfl, rfl, rfl⟩, nofun⟩

set_option maxRecDepth 8000 in
/-- The home is joined twice. Pets are no relation of users, and conditions that are none do not
matter then. -/
theorem joins_expand_homes :
    let text (ps : List Join.Parts) := " ".intercalate (("SELECT " ++ commaSeparated
      (["user.id AS user_id", "user.address_id AS user_address_id"] ++
        ps.flatMap (·.columns "_")) ++ " FROM " ++ "user" ++ " " ++ "user") ::
        ps.map (·.clause "user"))
    (∃ ps, List.Forall₂ (JoinRequest.Leads (userContext "home") .usual (userTable "home"))
        homeRequests ps ∧
      ((joinedUsers homeRequests .null).build (userContext "home") []).result =
        .ok ⟨text ps, []⟩ ∧
      text ps = "SELECT user.id AS user_id, user.address_id AS user_address_id, " ++
        "addresses.id AS home_id, addresses.id AS home_id FROM user user " ++
        "LEFT JOIN addresses ON user.address_id = addresses.id " ++
        "INNER JOIN addresses ON user.address_id = addresses.id AND addresses.id > 0") ∧
    ∃ (request : JoinRequest) (e : Error),
      request.Refused (userContext "home") (userTable "home") e ∧
      (joinedUsers (homeRequests ++ [petsRequest]) (.int 3)).build
        (userContext "home") [] = ⟨.error e, [], []⟩ ∧
      (e.family = .relation ∨ e.family = .notFound) ∧ e.settled noObjects = e := by
  intro text
  constructor
  · obtain ⟨-, hexpanded, -⟩ := joins_expand (joinedUsers homeRequests .null) (userContext "home")
      (userTable "home") "user" [] rfl rfl
      fun request hrequest => homeRequests_answer request (List.mem_append_left _ hrequest)
    obtain ⟨ps, hps, -, -, hbuilt⟩ := hexpanded homeRequests_known
    have hplain : Statement.withWhere (text ps) .empty ++ "" ++ "" ++ "" = text ps := by
      simp [Statement.withWhere, Statement.empty]
    have hresult : ((joinedUsers homeRequests .null).build (userContext "home") []).result =
        .ok ⟨text ps, []⟩ := by
      rw [← hplain]
      exact hbuilt .empty "" rfl rfl
    have hcomputed : ((joinedUsers homeRequests .null).build (userContext "home") []).result =
        .ok _ := rfl
    refine ⟨ps, hps, hresult, ?_⟩
    exact congrArg (·.query) (Except.ok.inj (hresult.symm.trans hcomputed))
  · obtain ⟨-, -, hrefused⟩ := joins_expand
      (joinedUsers (homeRequests ++ [petsRequest]) (.int 3)) (userContext "home")
      (userTable "home") "user" [] rfl rfl homeRequests_answer
    have hunknown : ¬∀ request ∈ homeRequests ++ [petsRequest],
        request.Known (userContext "home") (userTable "home") := by
      intro h
      obtain ⟨r, -, -, hr, -⟩ := h petsRequest (by simp)
      cases hr
    obtain ⟨before, request, after, e, hsplit, -, he, hbuild, hsettled⟩ := hrefused hunknown
    have hmem : request ∈ homeRequests ++ [petsRequest] := by
      rw [show homeRequests ++ [petsRequest] = _ from hsplit]
      exact List.mem_append_right before List.mem_cons_self
    obtain ⟨name, hname⟩ := homeRequests_texts request hmem
    exact ⟨request, e, he, hbuild, hsettled (JoinRequest.presentable_of_classes hname home_class)⟩

/-- Users whose home is resolved to a list. -/
def strayCalls : List Call :=
  let register (request : Request) : Call := .register ⟨noObjects, .cls (.plain "User"), request⟩
  [register (.column ⟨.text "id", .text "id", none, .bool false, .bool false⟩),
    register (.relation ⟨.text "ManyToOne", .text "home", .text "id", .text "addresses",
      .text "id", .resolver fun _ => .ok (.list [])⟩),
    register (.table (.text "user"))]

def strayContext : Context :=
  ⟨Registry.after ∅ strayCalls, Operators.builtin, noObjects, fun _ => none⟩

def strayTable : Table :=
  ⟨.cls (.plain "User"), "user", [⟨"id", "id", none, .bool false, .bool false⟩],
    [⟨.manyToOne, "home", "id", "addresses", "id", .deferred fun _ => .ok (.list [])⟩]⟩

/-- A list is no key of a registry, and no error of joins says so. -/
theorem stray_home_fails :
    ¬∀ (s : Select) (ctx : Context) (t : Table) (tableAlias : String) (feeds : Feeds),
      ctx.registry.table ctx.objects s.entity = .ok t →
      Where.aliasOf ctx.objects t s.tableAlias = .ok tableAlias →
      (∀ request ∈ s.joins, request.Answers ctx t) →
      (¬∀ request ∈ s.joins, request.Known ctx t) →
      ∃ e, (s.build ctx feeds).result = .error e ∧
        ((e.settled ctx.objects).family = .relation ∨
          (e.settled ctx.objects).family = .notFound) := by
  intro h
  have hanswers : ∀ request ∈ (userSelect "home").joins,
      request.Answers strayContext strayTable := by
    refine List.forall_mem_singleton.mpr (JoinRequest.answers_of_text rfl ?_ nofun)
    exact List.forall_mem_singleton.mpr ⟨_, rfl⟩
  have hunknown :
      ¬∀ request ∈ (userSelect "home").joins, request.Known strayContext strayTable := by
    intro hknown
    obtain ⟨r, entity, target, hr, he, ht⟩ := hknown _ List.mem_cons_self
    cases hr
    cases he
    cases ht
  obtain ⟨e, he, hfamily⟩ := h (userSelect "home") strayContext strayTable "user" [] rfl rfl
    hanswers hunknown
  cases he
  exact absurd hfamily (by decide)

end Select

end RecordSql
