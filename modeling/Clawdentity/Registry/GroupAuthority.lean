import Clawdentity.Registry.Groups

/-!
# Authority over the groups

The tables of the groups are a scene of delegated authority, and the statements of the routes are
its entries: whatever is done to a group, and whoever is told of it, is allowed by what has happened
before. So every right to manage a group goes back to its creator, by join tokens for admins.

## Main definitions

* `Database.scene` — the tables as a scene.
* `Call.Ok` — what a request in progress rests on.
* `authority_run` — every run is a legal history of the tables, and every answer is justified by it.
* `revoked_run`, `deleted_run` — what a revoked agent can no longer do, and a deleted group.
-/

namespace Clawdentity.Groups

open Js Lib Lib.Interleave Lib.Run Lib.History
open GroupJoin (GroupJoinRole)
open Lib.Delegation (Right Who Scene Standing Authentic Granted Allowed Descends)

variable {hash : JsString → JsString} {environment : Wire.IssuerAgreement.Environment}
  {s s' : Shared} {db db' : Database} {c c' : Call} {env : Env}

/-! ## The tables as a scene -/

def AgentRow.standing (row : AgentRow) : Standing JsString where
  owner := row.ownerId
  label := row.did
  active := row.active
  credential := row.currentJti

def Database.scene (db : Database) : Scene JsString GroupJoinRole where
  agent id := (db.agent? id).map AgentRow.standing
  founder id := (db.group? id).map GroupRow.createdBy
  role key := (db.member? key.1 key.2).map fun row => row.role

@[simp] theorem principal_who (actor : GroupRouteAuthActor) :
    actor.who.principal = actor.humanId := by
  cases actor <;> rfl

/-- An admin manages its group. -/
def Manages (role : GroupJoinRole) : Prop := role = .admin

/-- The primary keys that the joins of the tables rest on. -/
structure Database.Keyed (db : Database) : Prop where
  agents : (db.agents.map AgentRow.id).Nodup
  members : (db.members.map MemberRow.key).Nodup

section
variable {row : AgentRow} {group : GroupRow} {join : Join} {id groupId agentId : JsString}

theorem insertAgent_scene (h : insertAgent db row = some db') (hkeyed : db.Keyed) :
    db'.Keyed ∧ db.scene.agent row.id = none ∧ db'.scene =
      { db.scene with agent := Function.update db.scene.agent row.id (some row.standing) } := by
  simp only [insertAgent, Option.ite_none_right_eq_some, Option.some.injEq,
    Option.isNone_iff_eq_none] at h
  obtain ⟨⟨hnone, -⟩, rfl⟩ := h
  refine ⟨⟨Rows.nodup_insert hkeyed.agents hnone, hkeyed.members⟩, ?_, ?_⟩
  · simp [Database.scene, hnone]
  · simp only [Database.scene, Database.agent?, Scene.mk.injEq]
    refine ⟨?_, rfl, rfl⟩
    funext other
    rw [Rows.find_insert hnone, Function.update_apply]
    by_cases hid : row.id = other
    · simp [hid]
    · simp [hid, Ne.symm hid]

theorem deleteAgent_scene (h : deleteAgent db id = some db') (hkeyed : db.Keyed) :
    db'.Keyed ∧ (∀ groupId, db.scene.role (groupId, id) = none) ∧
      db'.scene = { db.scene with agent := Function.update db.scene.agent id none } := by
  simp only [deleteAgent, Option.ite_none_left_eq_some, Option.some.injEq] at h
  obtain ⟨hmembers, rfl⟩ := h
  refine ⟨⟨hkeyed.agents.sublist (List.filter_sublist.map _), hkeyed.members⟩, ?_, ?_⟩
  · intro groupId
    have hnone : db.member? groupId id = none := by
      refine List.find?_eq_none.mpr ?_
      intro row hrow hkey
      refine hmembers (List.any_eq_true.mpr ⟨row, hrow, ?_⟩)
      simp only [MemberRow.key, Prod.mk.injEq, decide_eq_true_eq] at hkey
      simp [hkey.2]
    simp [Database.scene, hnone]
  · simp only [Database.scene, Database.agent?, Scene.mk.injEq]
    refine ⟨?_, rfl, rfl⟩
    funext other
    rw [Rows.find_delete AgentRow.id, Function.update_apply]
    by_cases hid : other = id <;> simp [hid]

theorem updateAgent_scene {f : AgentRow → AgentRow} {g : Standing JsString → Standing JsString}
    (hid : ∀ row, (f row).id = row.id) (hstanding : ∀ row, (f row).standing = g row.standing)
    (hkeyed : db.Keyed) : (updateAgent db id f).Keyed ∧ (updateAgent db id f).scene =
      { db.scene with
        agent := Function.update db.scene.agent id ((db.scene.agent id).map g) } := by
  have hkey : ∀ row : AgentRow, (if row.id = id then f row else row).id = row.id := by
    intro row
    split
    · exact hid row
    · rfl
  refine ⟨⟨Rows.nodup_update hkey hkeyed.agents, hkeyed.members⟩, ?_⟩
  simp only [Database.scene, Database.agent?, updateAgent, Scene.mk.injEq]
  refine ⟨?_, rfl, rfl⟩
  funext other
  rw [Rows.find_update AgentRow.id hkey, Function.update_apply, Option.map_map]
  by_cases hother : other = id
  · subst hother
    rw [if_pos rfl, Option.map_map]
    refine Option.map_congr ?_
    intro row hrow
    simp [(Rows.key_of_find hrow).2, hstanding]
  · rw [if_neg hother]
    refine Option.map_congr ?_
    intro row hrow
    simp [(Rows.key_of_find hrow).2, hother]

theorem insertGroup_scene (h : insertGroup db group = some db') (hkeyed : db.Keyed) :
    db'.Keyed ∧ db.scene.founder group.id = none ∧ db'.scene =
      { db.scene with
        founder := Function.update db.scene.founder group.id (some group.createdBy) } := by
  simp only [insertGroup, Option.ite_none_left_eq_some, Option.some.injEq, Bool.not_eq_true,
    Option.isSome_eq_false_iff, Option.isNone_iff_eq_none] at h
  obtain ⟨hnone, rfl⟩ := h
  refine ⟨⟨hkeyed.agents, hkeyed.members⟩, ?_, ?_⟩
  · simp [Database.scene, hnone]
  · simp only [Database.scene, Database.group?, Scene.mk.injEq]
    refine ⟨rfl, ?_, rfl⟩
    funext other
    rw [Rows.find_insert hnone, Function.update_apply]
    by_cases hid : group.id = other
    · simp [hid]
    · simp [hid, Ne.symm hid]

theorem deleteGroup_scene (h : deleteGroup db groupId = some db') (hkeyed : db.Keyed) :
    db'.Keyed ∧ (∀ agentId, db.scene.role (groupId, agentId) = none) ∧
      db'.scene = { db.scene with founder := Function.update db.scene.founder groupId none } := by
  simp only [deleteGroup, Option.ite_none_left_eq_some, Option.some.injEq, Bool.or_eq_true,
    not_or] at h
  obtain ⟨⟨hmembers, -⟩, rfl⟩ := h
  refine ⟨⟨hkeyed.agents, hkeyed.members⟩, ?_, ?_⟩
  · intro agentId
    have hnone : db.member? groupId agentId = none := by
      refine List.find?_eq_none.mpr ?_
      intro row hrow hkey
      refine hmembers (List.any_eq_true.mpr ⟨row, hrow, ?_⟩)
      simp only [MemberRow.key, Prod.mk.injEq, decide_eq_true_eq] at hkey
      simp [hkey.1]
    simp [Database.scene, hnone]
  · simp only [Database.scene, Database.group?, Scene.mk.injEq]
    refine ⟨rfl, ?_, rfl⟩
    funext other
    rw [Rows.find_delete GroupRow.id, Function.update_apply]
    by_cases hid : other = groupId <;> simp [hid]

theorem insertMember_scene (hnone : db.member? join.token.groupId join.agent.id = none)
    (hkeyed : db.Keyed) : (insertMember db join).Keyed ∧ (insertMember db join).scene =
      { db.scene with
        role := Function.update db.scene.role (join.token.groupId, join.agent.id)
          (some join.token.role) } := by
  have hfind : db.members.find? (fun row => row.key = join.member.key) = none := hnone
  refine ⟨⟨hkeyed.agents, Rows.nodup_insert hkeyed.members hfind⟩, ?_⟩
  simp only [Database.scene, Database.member?, insertMember, Scene.mk.injEq]
  refine ⟨rfl, rfl, ?_⟩
  funext key
  rw [Rows.find_insert hfind, Function.update_apply]
  by_cases hkey : join.member.key = key
  · subst hkey
    simp [Join.member, MemberRow.key]
  · have hne : key ≠ (join.token.groupId, join.agent.id) := fun heq => hkey heq.symm
    simp [hkey, hne]

theorem deleteMember_scene (db : Database) (groupId agentId : JsString) (hkeyed : db.Keyed) :
    (deleteMember db groupId agentId).Keyed ∧ (deleteMember db groupId agentId).scene =
      { db.scene with role := Function.update db.scene.role (groupId, agentId) none } := by
  refine ⟨⟨hkeyed.agents, hkeyed.members.sublist (List.filter_sublist.map _)⟩, ?_⟩
  simp only [Database.scene, Database.member?, deleteMember, Scene.mk.injEq]
  refine ⟨rfl, rfl, ?_⟩
  funext key
  rw [Rows.find_delete MemberRow.key, Function.update_apply]
  by_cases hkey : key = (groupId, agentId) <;> simp [hkey]

theorem deleteMembersOf_scene (db : Database) (groupId : JsString) (hkeyed : db.Keyed) :
    (deleteMembersOf db groupId).Keyed ∧ (deleteMembersOf db groupId).scene =
      { db.scene with
        role := fun key => if key.1 = groupId then none else db.scene.role key } := by
  refine ⟨⟨hkeyed.agents, hkeyed.members.sublist (List.filter_sublist.map _)⟩, ?_⟩
  simp only [Database.scene, Database.member?, deleteMembersOf, Scene.mk.injEq]
  refine ⟨rfl, rfl, ?_⟩
  funext key
  rw [List.find?_filter]
  by_cases hkey : key.1 = groupId
  · rw [if_pos hkey, Option.map_eq_none_iff, List.find?_eq_none]
    intro row _ hmatch
    simp only [MemberRow.key, Prod.mk.injEq, decide_eq_true_eq] at hmatch
    exact hmatch.1 (hmatch.2.1.trans hkey)
  · rw [if_neg hkey]
    congr 2
    funext row
    by_cases hrow : row.key = key
    · have hgroup : row.groupId ≠ groupId := by
        rintro rfl
        exact hkey (by rw [← hrow]; rfl)
      simp [hrow, hgroup]
    · simp [hrow]

/-- A member's row is the one of its key. -/
theorem role_of_mem {member : MemberRow} (hkeyed : db.Keyed) (h : member ∈ db.members) :
    db.scene.role (member.groupId, member.agentId) = some member.role := by
  have hfind : db.member? member.groupId member.agentId = some member :=
    Rows.find_of_mem hkeyed.members h
  simp [Database.scene, hfind]

/-! ### What the queries find -/

theorem assertAgentIsActiveCurrent_scene {sub jti : JsString}
    (h : assertAgentIsActiveCurrent db sub jti = .ok row) (hkeyed : db.Keyed) :
    db.scene.agent row.id = some row.standing ∧ row.active = true ∧ row.currentJti = some jti := by
  simp only [assertAgentIsActiveCurrent] at h
  split at h
  · rename_i found hfound
    cases h
    obtain ⟨hfind, hcurrent⟩ := Option.filter_eq_some_iff.mp hfound
    simp only [Bool.and_eq_true, decide_eq_true_eq] at hcurrent
    have hrow : db.agent? row.id = some row :=
      Rows.find_of_mem hkeyed.agents (List.mem_of_find?_eq_some hfind)
    refine ⟨?_, hcurrent.1, hcurrent.2⟩
    simp [Database.scene, hrow]
  · cases h

theorem admits_iff {right : Right} {role : GroupJoinRole} :
    Right.admits right role = true ↔ right.Allows Manages role := by
  cases right <;> simp [Right.admits, Right.Allows, Manages]

/-- A membership that the routes find supports the right. -/
theorem resolveGroupForActor_supports {right : Right} {actor : GroupRouteAuthActor}
    {member : MemberRow} (h : resolveGroupForActor right db groupId actor = some member)
    (hkeyed : db.Keyed) :
    db.scene.Supports Manages right groupId actor.who (some member.agentId) := by
  have hrole (hmem : member ∈ db.members) (hgroup : member.groupId = groupId)
      (hadmits : Right.admits right member.role = true) :
      ∃ role, db.scene.role (groupId, member.agentId) = some role ∧ right.Allows Manages role := by
    subst hgroup
    exact ⟨member.role, role_of_mem hkeyed hmem, admits_iff.mp hadmits⟩
  cases actor with
  | human humanId =>
      have hfind : membershipOfHuman right db groupId humanId = some member := by
        cases right <;> exact h
      have hmatch := List.find?_some hfind
      simp only [Bool.and_eq_true, decide_eq_true_eq, Option.any_eq_true] at hmatch
      obtain ⟨⟨hgroup, hadmits⟩, agent, hagent, howner, hactive⟩ := hmatch
      refine ⟨hrole (List.mem_of_find?_eq_some hfind) hgroup hadmits, agent.standing, ?_, howner,
        hactive⟩
      simp [Database.scene, hagent]
  | agent humanId agentId agentDid =>
      have hfind : membershipOfAgent right db groupId agentId = some member := by
        cases right <;> exact h
      have hmatch := List.find?_some hfind
      simp only [Bool.and_eq_true, decide_eq_true_eq] at hmatch
      exact ⟨hrole (List.mem_of_find?_eq_some hfind) hmatch.1.1 hmatch.2, hmatch.1.2⟩

/-- A member whose agent is active, as a row. -/
theorem contains_iff {label : JsString} {role : GroupJoinRole} (hkeyed : db.Keyed) :
    db.scene.Contains groupId label role ↔ ∃ member ∈ db.members, member.groupId = groupId ∧
      member.role = role ∧ ∃ agent, db.agent? member.agentId = some agent ∧ agent.did = label ∧
        agent.active = true := by
  constructor
  · rintro ⟨id, standing, hstanding, hlabel, hactive, hrole⟩
    obtain ⟨agent, hagent, rfl⟩ := Option.map_eq_some_iff.mp hstanding
    obtain ⟨member, hmember, hmemberRole⟩ := Option.map_eq_some_iff.mp hrole
    have hkey := (Rows.key_of_find hmember).2
    obtain ⟨hgroup, rfl⟩ := Prod.mk.inj hkey
    exact ⟨member, List.mem_of_find?_eq_some hmember, hgroup, hmemberRole, agent, hagent, hlabel,
      hactive⟩
  · rintro ⟨member, hmem, rfl, rfl, agent, hagent, hlabel, hactive⟩
    refine ⟨member.agentId, agent.standing, ?_, hlabel, hactive, role_of_mem hkeyed hmem⟩
    simp [Database.scene, hagent]

theorem isMember_iff {agentDid : JsString} (hkeyed : db.Keyed) :
    db.isMember groupId agentDid = true ↔ ∃ role, db.scene.Contains groupId agentDid role := by
  simp only [Database.isMember, List.any_eq_true, Bool.and_eq_true, decide_eq_true_eq,
    Option.any_eq_true, contains_iff hkeyed]
  constructor
  · rintro ⟨member, hmem, hgroup, agent, hagent⟩
    exact ⟨member.role, member, hmem, hgroup, rfl, agent, hagent⟩
  · rintro ⟨role, member, hmem, hgroup, -, agent, hagent⟩
    exact ⟨member, hmem, hgroup, agent, hagent⟩

theorem mem_activeMembers_iff {label : JsString} {role : GroupJoinRole} (hkeyed : db.Keyed) :
    (label, role) ∈ (db.activeMembers groupId).map (fun row => (row.1, row.2.1)) ↔
      db.scene.Contains groupId label role := by
  rw [contains_iff hkeyed]
  constructor
  · intro hmem
    obtain ⟨row, hrow, heq⟩ := List.mem_map.mp hmem
    obtain ⟨member, hmember, hjoined⟩ := List.mem_filterMap.mp hrow
    simp only [Option.ite_none_right_eq_some, Option.map_eq_some_iff, Option.filter_eq_some_iff]
      at hjoined
    obtain ⟨hgroup, agent, ⟨hagent, hactive⟩, rfl⟩ := hjoined
    obtain ⟨hlabel, hrole⟩ := Prod.mk.inj heq
    exact ⟨member, hmember, hgroup, hrole, agent, hagent, hlabel, hactive⟩
  · rintro ⟨member, hmember, hgroup, rfl, agent, hagent, rfl, hactive⟩
    refine List.mem_map.mpr ⟨(agent.did, member.role, member.joinedAt), ?_, rfl⟩
    refine List.mem_filterMap.mpr ⟨member, hmember, ?_⟩
    simp [hgroup, hagent, hactive, Option.filter]

end

/-! ## What a request rests on -/

abbrev History := List (Delegation.Event JsString GroupJoinRole)

/-- The token was issued, for its group and with its role. -/
def TokenRow.Issued (history : History) (token : TokenRow) : Prop :=
  ∃ who, .invite token.id token.groupId token.role who ∈ history

/-- The agent was enrolled, and it was authenticated. -/
def AgentRow.Authenticated (history : History) (agent : AgentRow) : Prop :=
  (∃ credential, .enrol agent.id agent.ownerId agent.did credential ∈ history) ∧
    ∃ jti, .authenticate agent.id agent.ownerId jti ∈ history

/-- What an answer rests on. -/
def Response.Justified (history : History) : Response → Prop
  | .created actor row => actor.humanId = row.createdBy ∧ .found row.id actor.who ∈ history
  | .issued actor row _ => actor.humanId = row.issuedBy ∧
      .invite row.id row.groupId row.role actor.who ∈ history
  | .alreadyMember agent groupId role _ => agent.Authenticated history ∧
      ∃ invitation, .enter groupId agent.id role invitation ∈ history
  | .joined join _ => join.agent.Authenticated history ∧ join.admission ∈ history
  | .members actor groupId rows =>
      .list groupId actor.who (rows.map fun row => (row.1, row.2.1)) ∈ history
  | .removed actor groupId agentId => .expel groupId agentId actor.who ∈ history
  | .deleted actor groupId => .dissolve groupId actor.who ∈ history
  | .membership groupId agentDid isMember => .attest groupId agentDid isMember ∈ history
  | .group actor id _ => Granted history .read id actor.who
  | .error _ _ | .written => True

/-- The member of a join was admitted, where the phase comes after the insertion. -/
def JoinPhase.Ok (history : History) (join : Join) : JoinPhase → Prop
  | .update | .rollBack _ => join.admission ∈ history
  | .transaction | .insert | .resolve => True

/-- What a request in progress rests on. -/
def Call.Ok (history : History) : Call → Prop
  | .creatingGroup actor row => Authentic history actor.who ∧ actor.humanId = row.createdBy
  | .readingGroup actor _ _ | .readingMembership actor _ _ => Authentic history actor.who
  | .insertingToken actor row _ =>
      Granted history .manage row.groupId actor.who ∧ actor.humanId = row.issuedBy
  | .listingMembers actor groupId => Granted history .read groupId actor.who
  | .findingTarget actor groupId _ | .removingMember actor groupId _
  | .deletingGroup actor groupId _ => Granted history .manage groupId actor.who
  | .findingToken agent _ _ => agent.Authenticated history
  | .findingGroup agent token | .findingMember agent token _ =>
      agent.Authenticated history ∧ token.Issued history
  | .joining join phase =>
      join.agent.Authenticated history ∧ join.token.Issued history ∧ phase.Ok history join
  | .notifying join => join.agent.Authenticated history ∧ join.admission ∈ history
  | .answered response => response.Justified history
  | .resolvingActor _ _ | .resolvingJoiner _ _ _ | .checkingMembership _ _ | .writingAgent _ => True

section
variable {history later : History}

theorem authentic_mono {who : Who JsString} (h : Authentic history who) (hsub : history ⊆ later) :
    Authentic later who := by
  cases who with
  | person principal => trivial
  | agent agent principal => exact h.imp fun _ hmem => hsub hmem

theorem AgentRow.Authenticated.mono {agent : AgentRow} (h : agent.Authenticated history)
    (hsub : history ⊆ later) : agent.Authenticated later :=
  ⟨h.1.imp fun _ hmem => hsub hmem, h.2.imp fun _ hmem => hsub hmem⟩

theorem TokenRow.Issued.mono {token : TokenRow} (h : token.Issued history)
    (hsub : history ⊆ later) : token.Issued later :=
  h.imp fun _ hmem => hsub hmem

/-- What has happened stays so. -/
theorem Response.Justified.mono {response : Response} (h : response.Justified history)
    (hsub : history ⊆ later) : response.Justified later := by
  cases response with
  | created actor row => exact ⟨h.1, hsub h.2⟩
  | issued actor row token => exact ⟨h.1, hsub h.2⟩
  | alreadyMember agent groupId role joinedAt =>
      exact ⟨h.1.mono hsub, h.2.imp fun _ henter => hsub henter⟩
  | joined join recipients => exact ⟨h.1.mono hsub, hsub h.2⟩
  | members actor groupId rows => exact hsub h
  | removed actor groupId agentId => exact hsub h
  | deleted actor groupId => exact hsub h
  | membership groupId agentDid isMember => exact hsub h
  | group actor id name => exact Granted.mono h hsub
  | error error fieldErrors => trivial
  | written => trivial

theorem Call.Ok.mono (h : c.Ok history) (hsub : history ⊆ later) : c.Ok later := by
  cases c with
  | creatingGroup actor row => exact ⟨authentic_mono h.1 hsub, h.2⟩
  | readingGroup actor groupId goal => exact authentic_mono h hsub
  | readingMembership actor group goal => exact authentic_mono h hsub
  | insertingToken actor row token => exact ⟨h.1.mono hsub, h.2⟩
  | listingMembers actor groupId => exact Granted.mono h hsub
  | findingTarget actor groupId agentDid => exact Granted.mono h hsub
  | removingMember actor groupId agentId => exact Granted.mono h hsub
  | deletingGroup actor groupId phase => exact Granted.mono h hsub
  | findingToken agent groupJoinToken tokenPrefix => exact AgentRow.Authenticated.mono h hsub
  | findingGroup agent token => exact ⟨h.1.mono hsub, h.2.mono hsub⟩
  | findingMember agent token group => exact ⟨h.1.mono hsub, h.2.mono hsub⟩
  | joining join phase =>
      refine ⟨h.1.mono hsub, h.2.1.mono hsub, ?_⟩
      cases phase with
      | update => exact hsub h.2.2
      | rollBack error => exact hsub h.2.2
      | _ => trivial
  | notifying join => exact ⟨h.1.mono hsub, hsub h.2⟩
  | answered response => exact Response.Justified.mono h hsub
  | _ => trivial

end

/-! ## Statements -/

/-- The tables are what the history amounts to, and the history is legal. -/
structure Shared.Ok (s : Shared) : Prop where
  scene : Scene.of s.history = s.db.scene
  keyed : s.db.Keyed
  legal : Legal (Allowed Manages) s.history
  issued : ∀ token ∈ s.db.tokens, token.Issued s.history

/-- What a statement leaves behind. -/
structure Step (s s' : Shared) (c' : Call) : Prop where
  ok : s'.Ok
  extends_history : s.history <:+ s'.history
  call : c'.Ok s'.history

section
variable {e : Delegation.Event JsString GroupJoinRole}

theorem Step.idle (hs : s.Ok) (hc : c'.Ok s.history) : Step s s c' := ⟨hs, List.suffix_rfl, hc⟩

/-- A statement that writes an entry. -/
theorem Step.write (hs : s.Ok) (hallowed : Allowed Manages s.history e)
    (hscene : db.Keyed ∧ db.scene = s.db.scene.after e)
    (hissued : ∀ token ∈ db.tokens, token.Issued (e :: s.history))
    (hc : c'.Ok (e :: s.history)) : Step s (s.write db e) c' := by
  refine ⟨⟨?_, hscene.1, ⟨hallowed, hs.legal⟩, hissued⟩, List.suffix_cons _ _, hc⟩
  change (Scene.of s.history).after e = db.scene
  rw [hscene.2, hs.scene]

/-- The tokens stay issued. -/
theorem Shared.Ok.issued_cons (hs : s.Ok) (htokens : db.tokens ⊆ s.db.tokens) :
    ∀ token ∈ db.tokens, token.Issued (e :: s.history) := by
  intro token htoken
  exact (hs.issued token (htokens htoken)).mono (List.subset_cons_self _ _)

/-- A statement that reads, and whose answer is an entry. -/
theorem Step.record (hs : s.Ok) (hallowed : Allowed Manages s.history e)
    (hafter : s.db.scene.after e = s.db.scene) (hc : c'.Ok (e :: s.history)) :
    Step s (s.record e) c' :=
  .write hs hallowed ⟨hs.keyed, hafter.symm⟩ (hs.issued_cons fun _ h => h) hc

theorem Step.of_eq {r : Shared × Call} (h : Step s r.1 r.2) (heq : some r = some (s', c')) :
    Step s s' c' := by
  cases heq
  exact h

/-- Two statements of a transaction. -/
theorem Step.trans {t : Shared} (h : Step s t c) (h' : Step t s' c') : Step s s' c' :=
  ⟨h'.ok, h.extends_history.trans h'.extends_history, h'.call⟩

@[simp] theorem ok_failWith (history : History) (error : AgentAuth.AppError) :
    (failWith error).Ok history := trivial

@[simp] theorem ok_invalidPayload (history : History) (error : AgentAuth.AppError)
    (fieldErrors : List (String × String)) :
    (invalidPayload environment error fieldErrors).Ok history := trivial

/-! ### Authentication and rights -/

/-- The row of an agent that is authenticated. -/
theorem authenticateAgent_step {next : AgentRow → Call} (hs : s.Ok) (sub jti : JsString)
    (hnext : ∀ agent : AgentRow, agent.Authenticated (.authenticate agent.id agent.ownerId jti ::
      s.history) → (next agent).Ok (.authenticate agent.id agent.ownerId jti :: s.history)) :
    Step s (authenticateAgent s sub jti next).1 (authenticateAgent s sub jti next).2 := by
  simp only [authenticateAgent]
  split
  · exact .idle hs (ok_failWith ..)
  · rename_i agent hagent
    obtain ⟨hstanding, hactive, hjti⟩ := assertAgentIsActiveCurrent_scene hagent hs.keyed
    rw [← hs.scene] at hstanding
    obtain ⟨credential, henrol⟩ := Delegation.enrol_of_agent hstanding
    refine .record hs ⟨agent.standing, hstanding, rfl, hactive, hjti⟩ rfl (hnext agent ⟨?_, ?_⟩)
    · exact ⟨credential, List.mem_cons_of_mem _ henrol⟩
    · exact ⟨jti, List.mem_cons_self⟩

theorem startCreate_ok {history : History} {actor : GroupRouteAuthActor} (body : Option Value)
    (h : Authentic history actor.who) : (startCreate environment env actor body).Ok history := by
  simp only [startCreate]
  split
  · trivial
  · split
    · trivial
    · exact ⟨h, rfl⟩

theorem afterActor_ok {history : History} {actor : GroupRouteAuthActor} (pending : Pending)
    (h : Authentic history actor.who) : (afterActor environment env actor pending).Ok history := by
  cases pending with
  | create body => exact startCreate_ok body h
  | group groupId goal => exact h

theorem resolveGroupRouteAuthActor_step (hs : s.Ok) (credential : Credential) (pending : Pending) :
    Step s (resolveGroupRouteAuthActor environment s env credential pending).1
      (resolveGroupRouteAuthActor environment s env credential pending).2 := by
  cases credential with
  | human humanId => exact .idle hs (afterActor_ok pending trivial)
  | agent sub jti => exact authenticateAgent_step hs sub jti fun agent h => afterActor_ok pending h.2

theorem startIssue_ok {history : History} {actor : GroupRouteAuthActor} {groupId : JsString}
    (body : Option Value) (h : Granted history .manage groupId actor.who) :
    (startIssue hash environment env actor groupId body).Ok history := by
  simp only [startIssue]
  split
  · trivial
  · split
    · trivial
    · split
      · trivial
      · exact ⟨h, rfl⟩

theorem afterGrant_ok {history : History} {actor : GroupRouteAuthActor} {group : GroupRow}
    (goal : Goal) (h : Granted history goal.right group.id actor.who) :
    (afterGrant hash environment env actor group goal).Ok history := by
  cases goal with
  | issueToken body => exact startIssue_ok body h
  | listMembers => exact h
  | readGroup => exact h
  | removeMember targetAgentDid => exact h
  | deleteGroup => exact h

theorem grantRight_step {actor : GroupRouteAuthActor} {group : GroupRow} {goal : Goal}
    {evidence : Option JsString} (hs : s.Ok) (hauthentic : Authentic s.history actor.who)
    (hsupports : s.db.scene.Supports Manages goal.right group.id actor.who evidence) :
    Step s (grantRight hash environment s env actor group goal evidence).1
      (grantRight hash environment s env actor group goal evidence).2 := by
  refine .record hs ⟨hauthentic, ?_⟩ rfl (afterGrant_ok goal ⟨evidence, List.mem_cons_self⟩)
  rw [hs.scene]
  exact hsupports

theorem decideGroup_step {actor : GroupRouteAuthActor} (hs : s.Ok)
    (hauthentic : Authentic s.history actor.who) (groupId : JsString) (goal : Goal) :
    Step s (decideGroup hash environment s env actor groupId goal).1
      (decideGroup hash environment s env actor groupId goal).2 := by
  simp only [decideGroup]
  split
  · exact .idle hs (ok_failWith ..)
  · rename_i group hgroup
    obtain rfl : group.id = groupId := (Rows.key_of_find hgroup).2
    split
    · rename_i hcreator
      refine grantRight_step hs hauthentic ?_
      simp [Scene.Supports, Database.scene, hgroup, hcreator]
    · exact .idle hs hauthentic

theorem decideMembership_step {actor : GroupRouteAuthActor} (hs : s.Ok)
    (hauthentic : Authentic s.history actor.who) (group : GroupRow) (goal : Goal) :
    Step s (decideMembership hash environment s env actor group goal).1
      (decideMembership hash environment s env actor group goal).2 := by
  simp only [decideMembership]
  split
  · exact .idle hs (ok_failWith ..)
  · rename_i row hrow
    exact grantRight_step hs hauthentic (resolveGroupForActor_supports hrow hs.keyed)

/-! ### Joins -/

theorem afterJoiner_ok {history : History} (groupJoinToken : JsString) {agent : AgentRow}
    (h : agent.Authenticated history) : (afterJoiner groupJoinToken agent).Ok history := by
  simp only [afterJoiner]
  split
  · trivial
  · exact h

theorem decideToken_ok {agent : AgentRow} (hs : s.Ok) (h : agent.Authenticated s.history)
    (groupJoinToken tokenPrefix : JsString) :
    (decideToken hash s.db env agent groupJoinToken tokenPrefix).Ok s.history := by
  simp only [decideToken]
  split
  · trivial
  · rename_i token htoken
    have hmem := (List.mem_filter.mp (List.mem_of_find?_eq_some htoken)).1
    split
    · trivial
    · split
      · trivial
      · split
        · trivial
        · exact ⟨h, hs.issued token hmem⟩

theorem decideJoinGroup_ok {history : History} {agent : AgentRow} {token : TokenRow}
    (h : (Call.findingGroup agent token).Ok history) :
    (decideJoinGroup db agent token).Ok history := by
  simp only [decideJoinGroup]
  split
  · trivial
  · exact h

/-- A member was admitted in the role that it has. -/
theorem alreadyMember_justified {agent : AgentRow} {groupId : JsString} {member : MemberRow}
    (hs : s.Ok) (h : agent.Authenticated s.history)
    (hmember : s.db.member? groupId agent.id = some member) :
    (Response.alreadyMember agent groupId member.role member.joinedAt).Justified s.history := by
  have hrole : (Scene.of s.history).role (groupId, agent.id) = some member.role := by
    rw [hs.scene]
    simp [Database.scene, hmember]
  exact ⟨h, Delegation.enter_of_role hrole⟩

theorem decideMember_ok {agent : AgentRow} {token : TokenRow} (hs : s.Ok) (group : GroupRow)
    (h : (Call.findingMember agent token group).Ok s.history) :
    (decideMember s.db env agent token group).Ok s.history := by
  simp only [decideMember]
  split
  · rename_i member hmember
    exact alreadyMember_justified hs h.1 hmember
  · exact ⟨h.1, h.2, trivial⟩

theorem resolveJoin_ok {join : Join} (hs : s.Ok) (h : join.agent.Authenticated s.history) :
    (resolveJoin s.db join).Ok s.history := by
  simp only [resolveJoin]
  split
  · rename_i member hmember
    exact alreadyMember_justified hs h hmember
  · trivial

/-- An insertion into `group_members`. -/
theorem admission_step {join : Join} (hs : s.Ok) (hadmits : s.db.admits join = true)
    (hknows : s.db.knows join = true) (hagent : join.agent.Authenticated s.history)
    (hissued : join.token.Issued s.history) (htokens : ∀ token ∈ db.tokens, ∃ row ∈ s.db.tokens,
      token.id = row.id ∧ token.groupId = row.groupId ∧ token.role = row.role)
    (hdb : db = { insertMember s.db join with tokens := db.tokens })
    (hc : c'.Ok (join.admission :: s.history)) : Step s (s.write db join.admission) c' := by
  simp only [Database.admits, Bool.and_eq_true, Option.isNone_iff_eq_none] at hadmits
  simp only [Database.knows, Bool.and_eq_true] at hknows
  obtain ⟨hkeyed, hscene⟩ := insertMember_scene hadmits.2 hs.keyed
  refine .write hs ⟨hissued, ⟨_, hagent.2⟩, ?_, ?_⟩ ?_ ?_ hc
  · rw [hs.scene]
    simp [Database.scene, hadmits.2]
  · rw [hs.scene]
    simpa [Database.scene, Option.isSome_iff_ne_none] using hknows.1
  · rw [hdb]
    exact ⟨⟨hkeyed.agents, hkeyed.members⟩, hscene⟩
  · intro token htoken
    obtain ⟨row, hrow, hid, hgroup, hrole⟩ := htokens token htoken
    obtain ⟨who, hinvite⟩ := hs.issued row hrow
    refine ⟨who, List.mem_cons_of_mem _ ?_⟩
    rw [hid, hgroup, hrole]
    exact hinvite

/-- The rows of the tokens after a use. -/
theorem useToken_tokens {join : Join} (h : useToken db join = some db') :
    db' = { db with tokens := db'.tokens } ∧ ∀ token ∈ db'.tokens, ∃ row ∈ db.tokens,
      token.id = row.id ∧ token.groupId = row.groupId ∧ token.role = row.role := by
  simp only [useToken, Option.ite_none_right_eq_some, Option.some.injEq] at h
  obtain ⟨-, rfl⟩ := h
  refine ⟨rfl, ?_⟩
  intro token htoken
  obtain ⟨row, hrow, rfl⟩ := List.mem_map.mp htoken
  refine ⟨row, hrow, ?_⟩
  simp only [Join.useRow]
  split <;> exact ⟨rfl, rfl, rfl⟩

/-- A use of a token, which is no entry. -/
theorem useToken_step {join : Join} (hs : s.Ok) (h : useToken s.db join = some db)
    (hc : c'.Ok s.history) : Step s { s with db } c' := by
  obtain ⟨hdb, htokens⟩ := useToken_tokens h
  have hscene : db.scene = s.db.scene := by rw [hdb]; rfl
  have hkeyed : db.Keyed := by
    rw [hdb]
    exact ⟨hs.keyed.agents, hs.keyed.members⟩
  refine ⟨⟨hs.scene.trans hscene.symm, hkeyed, hs.legal, ?_⟩, List.suffix_rfl, hc⟩
  intro token htoken
  obtain ⟨row, hrow, hid, hgroup, hrole⟩ := htokens token htoken
  obtain ⟨who, hinvite⟩ := hs.issued row hrow
  refine ⟨who, ?_⟩
  rw [hid, hgroup, hrole]
  exact hinvite

theorem applyJoinMutation_step {join : Join} (hs : s.Ok)
    (hagent : join.agent.Authenticated s.history) (hissued : join.token.Issued s.history) :
    Step s (applyJoinMutation s join).1 (applyJoinMutation s join).2 := by
  simp only [applyJoinMutation]
  split
  · rename_i hadmits
    split
    · rename_i hknows
      split
      · exact .idle hs (ok_failWith ..)
      · rename_i db hdb
        obtain ⟨hsame, htokens⟩ := useToken_tokens hdb
        refine admission_step hs hadmits hknows hagent hissued htokens hsame ⟨?_, ?_⟩
        · exact hagent.mono (List.subset_cons_self _ _)
        · exact List.mem_cons_self
    · exact .idle hs (ok_failWith ..)
  · exact .idle hs (resolveJoin_ok hs hagent)

theorem joinStatement_step {join : Join} {phase : JoinPhase} (hs : s.Ok)
    (h : (Call.joining join phase).Ok s.history) :
    Step s (joinStatement s env join phase).1 (joinStatement s env join phase).2 := by
  obtain ⟨hagent, hissued, hphase⟩ := h
  cases phase with
  | transaction =>
      simp only [joinStatement]
      split
      · exact applyJoinMutation_step hs hagent hissued
      · exact .idle hs ⟨hagent, hissued, trivial⟩
  | insert =>
      simp only [joinStatement]
      split
      · rename_i hadmits
        split
        · rename_i hknows
          have hsub := List.subset_cons_self join.admission s.history
          refine admission_step hs hadmits hknows hagent hissued ?_ rfl
            ⟨hagent.mono hsub, hissued.mono hsub, List.mem_cons_self⟩
          intro token htoken
          exact ⟨token, htoken, rfl, rfl, rfl⟩
        · exact .idle hs (ok_failWith ..)
      · exact .idle hs ⟨hagent, hissued, trivial⟩
  | resolve => exact .idle hs (resolveJoin_ok hs hagent)
  | update =>
      simp only [joinStatement]
      split
      · exact .idle hs ⟨hagent, hissued, hphase⟩
      · rename_i db hdb
        exact useToken_step hs hdb ⟨hagent, hphase⟩
  | rollBack error =>
      refine .write hs ⟨_, _, hphase⟩ (deleteMember_scene _ _ _ hs.keyed) ?_ (ok_failWith ..)
      exact hs.issued_cons fun _ h => h

/-! ### Deletions and the agents -/

theorem deleteTokensOf_step {groupId : JsString} (hs : s.Ok) (hc : c'.Ok s.history) :
    Step s { s with db := deleteTokensOf s.db groupId } c' := by
  refine ⟨⟨hs.scene, ⟨hs.keyed.agents, hs.keyed.members⟩, hs.legal, ?_⟩, List.suffix_rfl, hc⟩
  intro token htoken
  exact hs.issued token (List.mem_filter.mp htoken).1

theorem disband_step {actor : GroupRouteAuthActor} {groupId : JsString} (hs : s.Ok)
    (h : Granted s.history .manage groupId actor.who)
    (hc : c'.Ok (.disband groupId actor.who :: s.history)) :
    Step s (disband s actor groupId) c' :=
  .write hs h (deleteMembersOf_scene _ _ hs.keyed) (hs.issued_cons fun _ h => h) hc

theorem dissolve_step {actor : GroupRouteAuthActor} {groupId : JsString} (hs : s.Ok)
    (h : Granted s.history .manage groupId actor.who) :
    Step s (dissolve s actor groupId).1 (dissolve s actor groupId).2 := by
  simp only [dissolve]
  split
  · exact .idle hs (ok_failWith ..)
  · rename_i db hdb
    obtain ⟨hkeyed, hroles, hscene⟩ := deleteGroup_scene hdb hs.keyed
    refine .write hs ⟨h, ?_⟩ ⟨hkeyed, hscene⟩ (hs.issued_cons ?_) List.mem_cons_self
    · rw [hs.scene]
      exact hroles
    · simp only [deleteGroup, Option.ite_none_left_eq_some, Option.some.injEq] at hdb
      obtain ⟨-, rfl⟩ := hdb
      exact fun _ h => h

theorem deleteStatement_step {actor : GroupRouteAuthActor} {groupId : JsString} (hs : s.Ok)
    (h : Granted s.history .manage groupId actor.who) (phase : DeletePhase) :
    Step s (deleteStatement s env actor groupId phase).1
      (deleteStatement s env actor groupId phase).2 := by
  have hgrant (e : Delegation.Event JsString GroupJoinRole) :
      Granted (e :: s.history) .manage groupId actor.who := h.mono (List.subset_cons_self _ _)
  cases phase with
  | transaction =>
      simp only [deleteStatement]
      split
      · have htokens : Step s { s with db := deleteTokensOf s.db groupId }
            (.deletingGroup actor groupId .members) := deleteTokensOf_step hs h
        have hmembers : Step _ _ (.deletingGroup actor groupId .group) :=
          disband_step htokens.ok h (hgrant _)
        exact (htokens.trans hmembers).trans (dissolve_step hmembers.ok (hgrant _))
      · exact .idle hs h
  | tokens => exact deleteTokensOf_step hs h
  | members => exact disband_step hs h (hgrant _)
  | group => exact dissolve_step hs h

theorem writeAgent_step (hs : s.Ok) (write : AgentWrite) :
    Step s (writeAgent s write).1 (writeAgent s write).2 := by
  cases write with
  | register id did name ownerId jti =>
      simp only [writeAgent]
      split
      · exact .idle hs (ok_failWith ..)
      · rename_i db hdb
        obtain ⟨hkeyed, hnone, hscene⟩ := insertAgent_scene hdb hs.keyed
        refine .write hs ?_ ⟨hkeyed, hscene⟩ (hs.issued_cons ?_) trivial
        · change (Scene.of s.history).agent id = none
          rw [hs.scene]
          exact hnone
        · simp only [insertAgent, Option.ite_none_right_eq_some, Option.some.injEq] at hdb
          obtain ⟨-, rfl⟩ := hdb
          exact fun _ h => h
  | withdraw id =>
      simp only [writeAgent]
      split
      · exact .idle hs (ok_failWith ..)
      · rename_i db hdb
        obtain ⟨hkeyed, hroles, hscene⟩ := deleteAgent_scene hdb hs.keyed
        refine .write hs ?_ ⟨hkeyed, hscene⟩ (hs.issued_cons ?_) trivial
        · change ∀ group, (Scene.of s.history).role (group, id) = none
          rw [hs.scene]
          exact hroles
        · simp only [deleteAgent, Option.ite_none_left_eq_some, Option.some.injEq] at hdb
          obtain ⟨-, rfl⟩ := hdb
          exact fun _ h => h
  | reissue id currentJti jti =>
      simp only [writeAgent]
      split
      · rename_i hany
        simp only [Option.any_eq_true, Bool.and_eq_true, decide_eq_true_eq] at hany
        obtain ⟨row, hrow, hmatch⟩ := hany
        refine .write hs ⟨row.standing, ?_, hmatch.1⟩
          (updateAgent_scene (fun _ => rfl) (fun _ => rfl) hs.keyed) (hs.issued_cons ?_) trivial
        · rw [hs.scene]
          simp [Database.scene, hrow]
        · exact fun _ h => h
      · exact .idle hs (ok_failWith ..)
  | revoke id =>
      refine .write hs trivial (updateAgent_scene (fun _ => rfl) (fun _ => rfl) hs.keyed) ?_ trivial
      exact hs.issued_cons fun _ h => h

/-! ### A move -/

theorem runStatement_step (hs : s.Ok) (hc : c.Ok s.history)
    (h : runStatement hash environment s env c = some (s', c')) : Step s s' c' := by
  cases c with
  | resolvingActor credential pending =>
      exact (resolveGroupRouteAuthActor_step hs credential pending).of_eq h
  | creatingGroup actor row =>
      simp only [runStatement] at h
      split at h
      · cases h
        exact .idle hs (ok_failWith ..)
      · rename_i db hdb
        cases h
        obtain ⟨hkeyed, hnone, hscene⟩ := insertGroup_scene hdb hs.keyed
        refine .write hs ⟨?_, hc.1⟩ ⟨hkeyed, ?_⟩ (hs.issued_cons ?_) ⟨hc.2, List.mem_cons_self⟩
        · rw [hs.scene]
          exact hnone
        · rw [hscene, ← hc.2, ← principal_who]
          rfl
        · simp only [insertGroup, Option.ite_none_left_eq_some, Option.some.injEq] at hdb
          obtain ⟨-, rfl⟩ := hdb
          exact fun _ h => h
  | readingGroup actor groupId goal =>
      exact (decideGroup_step hs hc groupId goal).of_eq h
  | readingMembership actor group goal =>
      exact (decideMembership_step hs hc group goal).of_eq h
  | insertingToken actor row token =>
      simp only [runStatement] at h
      split at h
      · cases h
        exact .idle hs (ok_failWith ..)
      · rename_i db hdb
        cases h
        simp only [insertToken, Option.ite_none_left_eq_some, Option.some.injEq, not_or,
          Option.isNone_iff_eq_none] at hdb
        obtain ⟨⟨hgroup, -⟩, rfl⟩ := hdb
        refine .write hs ⟨hc.1, ?_⟩ ⟨⟨hs.keyed.agents, hs.keyed.members⟩, rfl⟩ ?_
          ⟨hc.2, List.mem_cons_self⟩
        · rw [hs.scene]
          simpa [Database.scene] using hgroup
        · intro token htoken
          rcases List.mem_append.mp htoken with hold | hnew
          · exact (hs.issued token hold).mono (List.subset_cons_self _ _)
          · obtain rfl := List.mem_singleton.mp hnew
            exact ⟨_, List.mem_cons_self⟩
  | listingMembers actor groupId =>
      cases h
      refine .record hs ⟨hc, ?_⟩ rfl List.mem_cons_self
      intro label role
      rw [hs.scene]
      exact mem_activeMembers_iff hs.keyed
  | findingTarget actor groupId agentDid =>
      simp only [runStatement] at h
      split at h <;> cases h
      · exact .idle hs (ok_failWith ..)
      · exact .idle hs hc
  | removingMember actor groupId agentId =>
      cases h
      refine .write hs hc (deleteMember_scene _ _ _ hs.keyed) ?_ List.mem_cons_self
      exact hs.issued_cons fun _ h => h
  | deletingGroup actor groupId phase =>
      exact (deleteStatement_step hs hc phase).of_eq h
  | resolvingJoiner sub jti groupJoinToken =>
      have hstep := authenticateAgent_step hs sub jti fun _ hagent =>
        afterJoiner_ok groupJoinToken hagent
      exact hstep.of_eq h
  | findingToken agent groupJoinToken tokenPrefix =>
      cases h
      exact .idle hs (decideToken_ok hs hc groupJoinToken tokenPrefix)
  | findingGroup agent token =>
      cases h
      exact .idle hs (decideJoinGroup_ok hc)
  | findingMember agent token group =>
      cases h
      exact .idle hs (decideMember_ok hs group hc)
  | joining join phase =>
      exact (joinStatement_step hs hc).of_eq h
  | notifying join =>
      cases h
      exact .idle hs hc
  | checkingMembership groupId agentDid =>
      cases h
      refine .record hs ?_ rfl List.mem_cons_self
      change _ ↔ ∃ role, (Scene.of s.history).Contains groupId agentDid role
      rw [hs.scene]
      exact isMember_iff hs.keyed
  | writingAgent write =>
      exact (writeAgent_step hs write).of_eq h
  | answered response => cases h

theorem failStatement_ok {history : History} (hc : c.Ok history) (h : failStatement c = some c') :
    c'.Ok history := by
  cases c with
  | answered response => cases h
  | joining join phase =>
      cases phase with
      | update =>
          cases h
          exact hc
      | _ =>
          cases h
          trivial
  | notifying join =>
      cases h
      exact hc
  | _ =>
      cases h
      trivial

theorem proceed_step (hs : s.Ok) (hc : c.Ok s.history)
    (h : proceed hash environment s c env = some (s', c')) : Step s s' c' := by
  simp only [proceed] at h
  split at h
  · obtain ⟨next, hnext, heq⟩ := Option.map_eq_some_iff.mp h
    cases heq
    exact .idle hs (failStatement_ok hc hnext)
  · exact runStatement_step hs hc h

theorem startGroup_ok {history : History} {id : JsString} {credential : Credential} {goal : Goal} :
    (startGroup environment id credential goal).Ok history := by
  simp only [startGroup]
  split <;> trivial

theorem startRequest_ok {history : History} (input : Input) :
    (startRequest environment input).Ok history := by
  cases input with
  | createGroup credential body => trivial
  | issueToken credential id body => exact startGroup_ok
  | join sub jti body =>
      simp only [startRequest, startJoin]
      split
      · trivial
      · split <;> trivial
  | listMembers credential id => exact startGroup_ok
  | removeMember humanId id agentDid =>
      simp only [startRequest, startRemove]
      split
      · exact startGroup_ok
      · split <;> trivial
  | deleteGroup humanId id => exact startGroup_ok
  | checkMembership body =>
      simp only [startRequest]
      split <;> trivial
  | readGroup credential id => exact startGroup_ok
  | agents write => trivial

/-! ## Runs -/

/-- What holds of the tables and of every request. -/
structure Inv (p : State) : Prop where
  shared : p.shared.Ok
  calls : ∀ c ∈ p.calls, c.Ok p.shared.history

theorem inv_initial : Inv ⟨initial, []⟩ where
  shared :=
    { scene := rfl
      keyed := ⟨List.nodup_nil, List.nodup_nil⟩
      legal := trivial
      issued := by simp [initial, Database.empty] }
  calls := by simp

theorem inv_step {p q : State} {e : Event} (hp : Inv p)
    (h : (program hash environment).step p e = some q) :
    Inv q ∧ p.shared.history <:+ q.shared.history := by
  obtain ⟨input, s', c, rfl, hstart, rfl⟩ | ⟨i, env, c, s', c', rfl, hc, hresume, rfl⟩ :=
    Program.step_cases h
  · cases hstart
    refine ⟨⟨hp.shared, ?_⟩, List.suffix_rfl⟩
    intro c hc
    rcases List.mem_append.mp hc with hold | hnew
    · exact hp.calls c hold
    · obtain rfl := List.mem_singleton.mp hnew
      exact startRequest_ok input
  · have hstep := proceed_step hp.shared (hp.calls c (List.mem_of_getElem? hc)) hresume
    refine ⟨⟨hstep.ok, ?_⟩, hstep.extends_history⟩
    intro d hd
    rcases List.mem_or_eq_of_mem_set hd with hold | rfl
    · exact (hp.calls d hold).mono hstep.extends_history.subset
    · exact hstep.call

theorem inv_run {es : List Event} {p q : State} (hp : Inv p)
    (hrun : exec (program hash environment).step p es = some q) :
    Inv q ∧ p.shared.history <:+ q.shared.history := by
  refine exec_invariant_of_step (fun q : State => Inv q ∧ p.shared.history <:+ q.shared.history) ?_
    ⟨hp, List.suffix_rfl⟩ hrun
  intro t e u ht hstep
  obtain ⟨hu, hsuffix⟩ := inv_step ht.1 hstep
  exact ⟨hu, ht.2.trans hsuffix⟩

/-- **Authority over a group descends from its creator.** In every run of the routes from an empty
registry, under any interleaving and with any failures, the tables are what the history amounts to,
every entry of the history is allowed by those before it, every answer rests on an entry, and who
was let manage a group is its creator, or the owner of an agent that joined as an admin with a token
issued by somebody who was let manage the group in turn. -/
theorem authority_run {es : List Event} {p : State}
    (hrun : exec (program hash environment).step ⟨initial, []⟩ es = some p) :
    Scene.of p.shared.history = p.shared.db.scene ∧ Legal (Allowed Manages) p.shared.history ∧
      (∀ response, .answered response ∈ p.calls → response.Justified p.shared.history) ∧
      ∀ group who, Granted p.shared.history .manage group who →
        Descends Manages p.shared.history group who.principal := by
  obtain ⟨hp, -⟩ := inv_run inv_initial hrun
  refine ⟨hp.shared.scene, hp.shared.legal, ?_, ?_⟩
  · intro response hresponse
    exact hp.calls _ hresponse
  · intro group who hgrant
    exact Delegation.descends_of_grant hp.shared.legal hgrant

end

/-! ### An example -/

def exampleToken : ℕ → JsString
  | 0 => js "clw_gjt_AAECAwQFBgcICQoLDA0ODxAREhMUFRYXGBkaGxwdHh8"
  | _ => js "clw_gjt_ICEiIyQlJicoKSorLC0uLzAxMjM0NTY3ODk6Ozw9Pj8"

/-- The SHA-256 digests of the two tokens. -/
def exampleHash (token : JsString) : JsString :=
  if token = exampleToken 0 then
    js "ea9e81413f22a743d52a3ce1bd3c00b2afd9bfb10b012d08a1ee4ff4345d9fbc"
  else if token = exampleToken 1 then
    js "fc854a1406f8b04bda8126c98dc86c02c5a3172dbe74b21be1b4d3117e369424"
  else []

def exampleId (tag : String) : JsString := js ("01HF7YAT00W6W7CM7N3W5FDX" ++ tag)

def exampleDid (tag : String) : JsString :=
  js "did:cdi:registry.example.com:agent:" ++ exampleId tag

def exampleGroup : JsString := js "grp_" ++ exampleId "G1"

/-- Some moves of a request, which generate an id and a token. -/
def exampleMoves (count i token : ℕ) (tag : String) : List Event :=
  List.replicate count
    (.resume i ⟨1700000000000, false, false, exampleId tag, exampleToken token⟩)

/-- The agent of a human, whose token is known by the id of the human. -/
def exampleAgent (i : ℕ) (agent human : String) : List Event :=
  .start (.agents (.register (exampleId agent) (exampleDid agent) (js agent) (exampleId human)
    (exampleId human))) :: exampleMoves 1 i 0 agent

def exampleIssue (credential : Credential) : Event :=
  .start (.issueToken credential exampleGroup (some (object [("role", some (.str (js "admin")))])))

def exampleJoin (agent human : String) (token : ℕ) : Event :=
  .start (.join (exampleDid agent) (exampleId human)
    (some (object [("groupJoinToken", some (.str (exampleToken token)))])))

/-- The first human creates a group, and the agent of the second one joins it as an admin. -/
def exampleJoined : List Event :=
  exampleAgent 0 "B1" "H2" ++ exampleAgent 1 "C1" "H3" ++
    [.start (.createGroup (.human (exampleId "H1"))
      (some (object [("name", some (.str (js "alpha")))])))] ++ exampleMoves 2 2 0 "G1" ++
    [exampleIssue (.human (exampleId "H1"))] ++ exampleMoves 3 3 0 "T1" ++
    [exampleJoin "B1" "H2" 0] ++ exampleMoves 8 4 0 "X1"

/-- The agent of the second human then invites the agent of the third one, who deletes the group. -/
def exampleDeleted : List Event :=
  exampleJoined ++ [exampleIssue (.agent (exampleDid "B1") (exampleId "H2"))] ++
    exampleMoves 4 5 1 "T2" ++ [exampleJoin "C1" "H3" 1] ++ exampleMoves 8 6 0 "X1" ++
    [.start (.deleteGroup (exampleId "H3") exampleGroup)] ++ exampleMoves 7 7 0 "X1"

theorem exampleDeleted_result :
    (exec (program exampleHash .production).step ⟨initial, []⟩ exampleDeleted).map
      (fun p => (decide (.grant .manage exampleGroup (.person (exampleId "H3"))
        (some (exampleId "C1")) ∈ p.shared.history), p.shared.db.groups.length)) =
      some (true, 0) := by
  decide

theorem exampleDeleted_authority : ∃ p,
    exec (program exampleHash .production).step ⟨initial, []⟩ exampleDeleted = some p ∧
    Descends Manages p.shared.history exampleGroup (exampleId "H3") := by
  obtain ⟨p, hrun, hresult⟩ := Option.map_eq_some_iff.mp exampleDeleted_result
  have hgrant := of_decide_eq_true (Prod.mk.inj hresult).1
  obtain ⟨-, -, -, hdescends⟩ := authority_run hrun
  exact ⟨p, hrun, hdescends exampleGroup (.person (exampleId "H3")) ⟨_, hgrant⟩⟩

/-! ## Revoked agents and deleted groups -/

def GroupRouteAuthActor.agent? : GroupRouteAuthActor → Option JsString
  | .human _ => none
  | .agent _ agentId _ => some agentId

def Response.agent? : Response → Option JsString
  | .created actor _ | .issued actor _ _ | .members actor _ _ | .removed actor _ _
  | .deleted actor _ | .group actor _ _ => actor.agent?
  | .alreadyMember agent _ _ _ => some agent.id
  | .joined join _ => some join.agent.id
  | .error _ _ | .membership _ _ _ | .written => none

/-- The agent that a request acts as, once it is authenticated. -/
def Call.agent? : Call → Option JsString
  | .creatingGroup actor _ | .readingGroup actor _ _ | .readingMembership actor _ _
  | .insertingToken actor _ _ | .listingMembers actor _ | .findingTarget actor _ _
  | .removingMember actor _ _ | .deletingGroup actor _ _ => actor.agent?
  | .findingToken agent _ _ | .findingGroup agent _ | .findingMember agent _ _ => some agent.id
  | .joining join _ | .notifying join => some join.agent.id
  | .answered response => response.agent?
  | .resolvingActor _ _ | .resolvingJoiner _ _ _ | .checkingMembership _ _ | .writingAgent _ => none

section
variable {a : JsString} {actor : GroupRouteAuthActor} {agent : AgentRow}

@[simp] theorem agent_failWith (error : AgentAuth.AppError) : (failWith error).agent? = none := rfl

@[simp] theorem agent_invalidPayload (error : AgentAuth.AppError)
    (fieldErrors : List (String × String)) :
    (invalidPayload environment error fieldErrors).agent? = none := rfl

theorem afterActor_agent {pending : Pending}
    (h : (afterActor environment env actor pending).agent? = some a) : actor.agent? = some a := by
  cases pending with
  | create body =>
      simp only [afterActor, startCreate] at h
      split at h
      · simp at h
      · split at h
        · simp at h
        · exact h
  | group groupId goal => exact h

theorem afterGrant_agent {group : GroupRow} {goal : Goal}
    (h : (afterGrant hash environment env actor group goal).agent? = some a) :
    actor.agent? = some a := by
  cases goal with
  | issueToken body =>
      simp only [afterGrant, startIssue] at h
      split at h
      · simp at h
      · split at h
        · simp at h
        · split at h
          · simp at h
          · exact h
  | _ => exact h

theorem decideGroup_agent {groupId : JsString} {goal : Goal}
    (h : (decideGroup hash environment s env actor groupId goal).2.agent? = some a) :
    actor.agent? = some a := by
  simp only [decideGroup] at h
  split at h
  · simp at h
  · split at h
    · exact afterGrant_agent h
    · exact h

theorem decideMembership_agent {group : GroupRow} {goal : Goal}
    (h : (decideMembership hash environment s env actor group goal).2.agent? = some a) :
    actor.agent? = some a := by
  simp only [decideMembership] at h
  split at h
  · simp at h
  · exact afterGrant_agent h

/-- A request acts as the agent that it was authenticated as. -/
theorem authenticateAgent_agent {sub jti : JsString} {next : AgentRow → Call}
    (hnext : ∀ agent, (next agent).agent? = some a → agent.id = a)
    (h : (authenticateAgent s sub jti next).2.agent? = some a) :
    ∃ owner, (authenticateAgent s sub jti next).1.history = .authenticate a owner jti :: s.history := by
  simp only [authenticateAgent] at h ⊢
  split at h
  · simp at h
  · rename_i agent hagent
    obtain rfl := hnext agent h
    exact ⟨agent.ownerId, rfl⟩

theorem afterJoiner_agent {groupJoinToken : JsString}
    (h : (afterJoiner groupJoinToken agent).agent? = some a) : agent.id = a := by
  simp only [afterJoiner] at h
  split at h
  · simp at h
  · exact Option.some.inj h

theorem decideToken_agent {groupJoinToken tokenPrefix : JsString}
    (h : (decideToken hash db env agent groupJoinToken tokenPrefix).agent? = some a) :
    agent.id = a := by
  simp only [decideToken] at h
  split at h
  · simp at h
  · split at h
    · simp at h
    · split at h
      · simp at h
      · split at h
        · simp at h
        · exact Option.some.inj h

theorem resolveJoin_agent {join : Join} (h : (resolveJoin db join).agent? = some a) :
    join.agent.id = a := by
  simp only [resolveJoin] at h
  split at h
  · exact Option.some.inj h
  · simp at h

theorem applyJoinMutation_agent {join : Join}
    (h : (applyJoinMutation s join).2.agent? = some a) : join.agent.id = a := by
  simp only [applyJoinMutation] at h
  split at h
  · split at h
    · split at h
      · simp at h
      · exact Option.some.inj h
    · simp at h
  · exact resolveJoin_agent h

theorem joinStatement_agent {join : Join} {phase : JoinPhase}
    (h : (joinStatement s env join phase).2.agent? = some a) : join.agent.id = a := by
  cases phase with
  | transaction =>
      simp only [joinStatement] at h
      split at h
      · exact applyJoinMutation_agent h
      · exact Option.some.inj h
  | insert =>
      simp only [joinStatement] at h
      split at h
      · split at h
        · exact Option.some.inj h
        · simp at h
      · exact Option.some.inj h
  | resolve => exact resolveJoin_agent h
  | update =>
      simp only [joinStatement] at h
      split at h <;> exact Option.some.inj h
  | rollBack error => simp [joinStatement] at h

theorem dissolve_agent {groupId : JsString} (h : (dissolve s actor groupId).2.agent? = some a) :
    actor.agent? = some a := by
  simp only [dissolve] at h
  split at h
  · simp at h
  · exact h

theorem deleteStatement_agent {groupId : JsString} {phase : DeletePhase}
    (h : (deleteStatement s env actor groupId phase).2.agent? = some a) :
    actor.agent? = some a := by
  cases phase with
  | transaction =>
      simp only [deleteStatement] at h
      split at h
      · exact dissolve_agent h
      · exact h
  | tokens => exact h
  | members => exact h
  | group => exact dissolve_agent h

theorem writeAgent_agent (write : AgentWrite) : (writeAgent s write).2.agent? = none := by
  cases write <;> simp only [writeAgent] <;> first | rfl | (split <;> rfl)

/-- A statement acts as the agent of the request, or has authenticated it. -/
theorem runStatement_agent (h : runStatement hash environment s env c = some (s', c'))
    (ha : c'.agent? = some a) :
    c.agent? = some a ∨ ∃ owner jti, s'.history = .authenticate a owner jti :: s.history := by
  cases c with
  | resolvingActor credential pending =>
      cases credential with
      | human humanId =>
          cases h
          have hnone := afterActor_agent ha
          cases hnone
      | agent sub jti =>
          obtain ⟨rfl, rfl⟩ := Prod.mk.inj (Option.some.inj h)
          have hnext (agent : AgentRow) (hagent : (afterActor environment env
              (.agent agent.ownerId agent.id agent.did) pending).agent? = some a) :
              agent.id = a := by
            have hsame : some agent.id = some a := afterActor_agent hagent
            exact Option.some.inj hsame
          obtain ⟨owner, hhistory⟩ := authenticateAgent_agent hnext ha
          exact .inr ⟨owner, jti, hhistory⟩
  | creatingGroup actor row =>
      simp only [runStatement] at h
      split at h <;> cases h
      · simp at ha
      · exact .inl ha
  | readingGroup actor groupId goal =>
      obtain ⟨rfl, rfl⟩ := Prod.mk.inj (Option.some.inj h)
      exact .inl (decideGroup_agent ha)
  | readingMembership actor group goal =>
      obtain ⟨rfl, rfl⟩ := Prod.mk.inj (Option.some.inj h)
      exact .inl (decideMembership_agent ha)
  | insertingToken actor row token =>
      simp only [runStatement] at h
      split at h <;> cases h
      · simp at ha
      · exact .inl ha
  | listingMembers actor groupId =>
      cases h
      exact .inl ha
  | findingTarget actor groupId agentDid =>
      simp only [runStatement] at h
      split at h <;> cases h
      · simp at ha
      · exact .inl ha
  | removingMember actor groupId agentId =>
      cases h
      exact .inl ha
  | deletingGroup actor groupId phase =>
      obtain ⟨rfl, rfl⟩ := Prod.mk.inj (Option.some.inj h)
      exact .inl (deleteStatement_agent ha)
  | resolvingJoiner sub jti groupJoinToken =>
      obtain ⟨rfl, rfl⟩ := Prod.mk.inj (Option.some.inj h)
      obtain ⟨owner, hhistory⟩ := authenticateAgent_agent (fun _ => afterJoiner_agent) ha
      exact .inr ⟨owner, jti, hhistory⟩
  | findingToken agent groupJoinToken tokenPrefix =>
      cases h
      exact .inl (congrArg some (decideToken_agent ha))
  | findingGroup agent token =>
      simp only [runStatement, decideJoinGroup] at h
      split at h <;> cases h
      · simp at ha
      · exact .inl ha
  | findingMember agent token group =>
      simp only [runStatement, decideMember] at h
      split at h <;> cases h <;> exact .inl ha
  | joining join phase =>
      obtain ⟨rfl, rfl⟩ := Prod.mk.inj (Option.some.inj h)
      exact .inl (congrArg some (joinStatement_agent ha))
  | notifying join =>
      cases h
      exact .inl ha
  | checkingMembership groupId agentDid =>
      cases h
      cases ha
  | writingAgent write =>
      obtain ⟨rfl, rfl⟩ := Prod.mk.inj (Option.some.inj h)
      have hnone := (writeAgent_agent (s := s) write).symm.trans ha
      cases hnone
  | answered response => cases h

theorem failStatement_agent (h : failStatement c = some c') (ha : c'.agent? = some a) :
    c.agent? = some a := by
  cases c with
  | answered response => cases h
  | joining join phase =>
      cases phase with
      | update =>
          cases h
          exact ha
      | _ =>
          cases h
          cases ha
  | notifying join =>
      cases h
      exact ha
  | _ =>
      cases h
      cases ha

theorem proceed_agent (h : proceed hash environment s c env = some (s', c'))
    (ha : c'.agent? = some a) :
    c.agent? = some a ∨ ∃ owner jti, s'.history = .authenticate a owner jti :: s.history := by
  simp only [proceed] at h
  split at h
  · obtain ⟨next, hnext, heq⟩ := Option.map_eq_some_iff.mp h
    cases heq
    exact .inl (failStatement_agent hnext ha)
  · exact runStatement_agent h ha

theorem startGroup_agent {id : JsString} {credential : Credential} {goal : Goal} :
    (startGroup environment id credential goal).agent? = none := by
  simp only [startGroup]
  split <;> rfl

theorem startRequest_agent (input : Input) : (startRequest environment input).agent? = none := by
  cases input with
  | createGroup credential body => rfl
  | issueToken credential id body => exact startGroup_agent
  | join sub jti body =>
      simp only [startRequest, startJoin]
      split
      · rfl
      · split <;> rfl
  | listMembers credential id => exact startGroup_agent
  | removeMember humanId id agentDid =>
      simp only [startRequest, startRemove]
      split
      · exact startGroup_agent
      · split <;> rfl
  | deleteGroup humanId id => exact startGroup_agent
  | checkMembership body =>
      simp only [startRequest]
      split <;> rfl
  | readGroup credential id => exact startGroup_agent
  | agents write => rfl

end

/-- Every request that started at an index from `n` on acts as an agent that was authenticated
since. -/
def AuthenticatedSince (n : ℕ) (new : History) (calls : List Call) : Prop :=
  ∀ j c agentId, n ≤ j → calls[j]? = some c → c.agent? = some agentId →
    ∃ owner jti, .authenticate agentId owner jti ∈ new

/-- What has happened since a state, and the requests that have started since. -/
structure Since (p q : State) (new : History) : Prop where
  inv : Inv q
  history : q.shared.history = new ++ p.shared.history
  calls : AuthenticatedSince p.calls.length new q.calls

section
variable {p q r : State} {e : Event} {new : History}

theorem Since.start {c : Call} (h : Since p q new) (hinv : Inv ⟨q.shared, q.calls ++ [c]⟩)
    (hnone : c.agent? = none) : Since p ⟨q.shared, q.calls ++ [c]⟩ new := by
  refine ⟨hinv, h.history, ?_⟩
  intro j d agentId hj hd hagent
  rcases getElem?_or_eq_of_append hd with hold | rfl
  · exact h.calls j d agentId hj hold hagent
  · rw [hnone] at hagent
    cases hagent

theorem Since.step (h : Since p q new) (hstep : (program hash environment).step q e = some r) :
    ∃ new', Since p r new' := by
  obtain ⟨hinv, later, hlater⟩ := inv_step h.inv hstep
  obtain ⟨input, s', c, rfl, hstart, rfl⟩ | ⟨i, env, c, s', c', rfl, hc, hresume, rfl⟩ :=
    Program.step_cases hstep
  · cases hstart
    exact ⟨new, h.start hinv (startRequest_agent input)⟩
  · refine ⟨later ++ new, hinv, ?_, ?_⟩
    · rw [← hlater, h.history, List.append_assoc]
    · intro j d agentId hj hd hagent
      by_cases hij : i = j
      · subst hij
        rcases getElem?_or_eq_of_set hd with hold | rfl
        · obtain ⟨owner, jti, hmem⟩ := h.calls i d agentId hj hold hagent
          exact ⟨owner, jti, List.mem_append_right _ hmem⟩
        · rcases proceed_agent hresume hagent with hsame | ⟨owner, jti, hhistory⟩
          · obtain ⟨owner, jti, hmem⟩ := h.calls i c agentId hj hc hsame
            exact ⟨owner, jti, List.mem_append_right _ hmem⟩
          · have hnew : later = [.authenticate agentId owner jti] :=
              List.append_cancel_right (hlater.trans hhistory)
            refine ⟨owner, jti, List.mem_append_left _ ?_⟩
            rw [hnew]
            exact List.mem_singleton.mpr rfl
      · rw [List.getElem?_set_ne hij] at hd
        obtain ⟨owner, jti, hmem⟩ := h.calls j d agentId hj hd hagent
        exact ⟨owner, jti, List.mem_append_right _ hmem⟩

theorem since_run {es : List Event} (hp : Inv p)
    (hrun : exec (program hash environment).step p es = some q) : ∃ new, Since p q new := by
  refine exec_invariant_of_step (fun q => ∃ new, Since p q new) ?_ ⟨[], hp, rfl, ?_⟩ hrun
  · rintro q e r ⟨new, hnew⟩ hstep
    exact hnew.step hstep
  · intro j c agentId hj hc
    rw [List.getElem?_eq_none hj] at hc
    cases hc

/-- **A revoked agent** is authenticated no more: no request that starts after its revocation acts
as the agent, and no right is given to a human for its memberships, whatever was going on when it
was revoked. -/
theorem revoked_run {es fs : List Event} {row : AgentRow}
    (hp : exec (program hash environment).step ⟨initial, []⟩ es = some p)
    (hq : exec (program hash environment).step p fs = some q)
    (hrow : row ∈ p.shared.db.agents) (hrevoked : row.active = false) :
    ∃ new, q.shared.history = new ++ p.shared.history ∧ (.withdraw row.id ∉ new →
      (∀ j c, p.calls.length ≤ j → q.calls[j]? = some c → c.agent? ≠ some row.id) ∧
      ∀ right group principal, .grant right group (.person principal) (some row.id) ∉ new) := by
  obtain ⟨hinv, -⟩ := inv_run inv_initial hp
  obtain ⟨new, hsince⟩ := since_run hinv hq
  refine ⟨new, hsince.history, ?_⟩
  intro hkept
  have hretired : (Scene.of p.shared.history).Retired row.id := by
    have hfind : p.shared.db.agent? row.id = some row :=
      Rows.find_of_mem hinv.shared.keyed.agents hrow
    rw [hinv.shared.scene]
    refine ⟨row.standing, ?_, hrevoked⟩
    simp [Database.scene, hfind]
  have hlegal := hsince.inv.shared.legal
  rw [hsince.history] at hlegal
  obtain ⟨hauthenticate, hgrant⟩ := Delegation.not_acting_of_retired hlegal hretired hkept
  refine ⟨?_, hgrant⟩
  intro j c hj hc hagent
  obtain ⟨owner, jti, hmem⟩ := hsince.calls j c row.id hj hc hagent
  exact hauthenticate owner jti hmem

/-- The agent of the second human is revoked while a request of it is at its insertion. -/
def exampleRevoked : List Event :=
  exampleJoined ++ [exampleIssue (.agent (exampleDid "B1") (exampleId "H2"))] ++
    exampleMoves 3 5 1 "T2" ++ [.start (.agents (.revoke (exampleId "B1")))] ++
    exampleMoves 1 6 0 "X1"

/-- The insertion goes on; another request of the agent, and one of its human, are refused. -/
def exampleRefused : List Event :=
  exampleMoves 1 5 1 "T2" ++ [exampleIssue (.agent (exampleDid "B1") (exampleId "H2"))] ++
    exampleMoves 1 7 1 "T3" ++ [exampleIssue (.human (exampleId "H2"))] ++ exampleMoves 3 8 1 "T4"

theorem exampleRevoked_result :
    (exec (program exampleHash .production).step ⟨initial, []⟩ exampleRevoked).bind
      (fun p => (exec (program exampleHash .production).step p exampleRefused).map fun q =>
        (p.shared.db.agents.any fun row => row.id = exampleId "B1" && !row.active,
          decide (.withdraw (exampleId "B1") ∈ q.shared.history), p.calls.length,
          q.shared.db.tokens.length)) = some (true, false, 7, 2) := by
  decide

theorem exampleRevoked_refused : ∃ p q,
    exec (program exampleHash .production).step ⟨initial, []⟩ exampleRevoked = some p ∧
    exec (program exampleHash .production).step p exampleRefused = some q ∧
    ∀ j c, p.calls.length ≤ j → q.calls[j]? = some c → c.agent? ≠ some (exampleId "B1") := by
  obtain ⟨p, hp, hrest⟩ := Option.bind_eq_some_iff.mp exampleRevoked_result
  obtain ⟨q, hq, hresult⟩ := Option.map_eq_some_iff.mp hrest
  simp only [Prod.mk.injEq, List.any_eq_true, Bool.and_eq_true, decide_eq_true_eq,
    Bool.not_eq_true', decide_eq_false_iff_not] at hresult
  obtain ⟨⟨row, hrow, hid, hrevoked⟩, hkept, -⟩ := hresult
  obtain ⟨new, hhistory, hsince⟩ := revoked_run hp hq hrow hrevoked
  rw [hid] at hsince
  rw [hhistory] at hkept
  obtain ⟨hcalls, -⟩ := hsince fun hmem => hkept (List.mem_append_left _ hmem)
  exact ⟨p, q, hp, hq, hcalls⟩

/-- **A deleted group** stays deleted: while no group of its id is created anew, nobody joins it, no
token is issued for it, nobody has a right to it, and it has no members, whatever was going on when
it was deleted. -/
theorem deleted_run {es fs : List Event} {groupId : JsString}
    (hp : exec (program hash environment).step ⟨initial, []⟩ es = some p)
    (hq : exec (program hash environment).step p fs = some q)
    (hnone : p.shared.db.group? groupId = none) :
    ∃ new, q.shared.history = new ++ p.shared.history ∧ ((∀ who, .found groupId who ∉ new) →
      (∀ agent role token, .enter groupId agent role token ∉ new) ∧
      (∀ token role who, .invite token groupId role who ∉ new) ∧
      (∀ right who evidence, .grant right groupId who evidence ∉ new) ∧
      ∀ row ∈ q.shared.db.members, row.groupId ≠ groupId) := by
  obtain ⟨hinv, -⟩ := inv_run inv_initial hp
  obtain ⟨new, hsince⟩ := since_run hinv hq
  refine ⟨new, hsince.history, ?_⟩
  intro hfound
  have habsent : (Scene.of p.shared.history).founder groupId = none := by
    rw [hinv.shared.scene]
    simp [Database.scene, hnone]
  have hlegal := hsince.inv.shared.legal
  rw [hsince.history] at hlegal
  obtain ⟨henter, hinvite, hgrant⟩ := Delegation.not_acting_in_absent hlegal habsent hfound
  refine ⟨henter, hinvite, hgrant, ?_⟩
  rintro row hrow rfl
  have hrole := role_of_mem hsince.inv.shared.keyed hrow
  rw [← hsince.inv.shared.scene, hsince.history] at hrole
  exact Delegation.founder_of_role hlegal hrole (Delegation.founder_since habsent hfound)

/-- A join with the second token, and a request of the creator, after the deletion. -/
def exampleLate : List Event :=
  [exampleJoin "C1" "H3" 1, exampleIssue (.human (exampleId "H1"))] ++ exampleMoves 2 8 0 "X1" ++
    exampleMoves 2 9 0 "X1"

theorem exampleLate_result :
    (exec (program exampleHash .production).step ⟨initial, []⟩ exampleDeleted).bind
      (fun p => (exec (program exampleHash .production).step p exampleLate).map fun q =>
        ((p.shared.db.group? exampleGroup).isNone,
          q.shared.history.length - p.shared.history.length,
          decide (q.shared.history.head? =
            some (.authenticate (exampleId "C1") (exampleId "H3") (exampleId "H3"))))) =
      some (true, 1, true) := by
  decide

theorem exampleLate_deleted : ∃ p q,
    exec (program exampleHash .production).step ⟨initial, []⟩ exampleDeleted = some p ∧
    exec (program exampleHash .production).step p exampleLate = some q ∧
    ∀ row ∈ q.shared.db.members, row.groupId ≠ exampleGroup := by
  obtain ⟨p, hp, hrest⟩ := Option.bind_eq_some_iff.mp exampleLate_result
  obtain ⟨q, hq, hresult⟩ := Option.map_eq_some_iff.mp hrest
  simp only [Prod.mk.injEq, Option.isNone_iff_eq_none, decide_eq_true_eq] at hresult
  obtain ⟨hnone, hlength, hhead⟩ := hresult
  obtain ⟨new, hhistory, hsince⟩ := deleted_run hp hq hnone
  have hone : new.length = 1 := by
    rw [hhistory, List.length_append] at hlength
    omega
  obtain ⟨e, rfl⟩ := List.length_eq_one_iff.mp hone
  rw [hhistory, List.singleton_append, List.head?_cons] at hhead
  obtain rfl := Option.some.inj hhead
  obtain ⟨-, -, -, hmembers⟩ := hsince fun who hmem => by simp at hmem
  exact ⟨p, q, hp, hq, hmembers⟩

end

end Clawdentity.Groups
