import Clawdentity.Lib.History
import Mathlib.Logic.Function.Basic

/-!
# Authority by invitation

Principals found groups and enrol agents. Who may manage a group invites agents into it, with a
role; an agent that comes with an invitation is admitted in that role, and the roles that manage
let the agent, or its owner while it is active, manage the group in turn.

The history of all this is a list, the newest entry first, and the scene is what it amounts to.

## Main definitions

* `Event`, `Scene.of` — what happens, and what there is afterwards.
* `Allowed` — an entry is allowed by the entries before it.
* `descends_of_grant` — whoever may manage a group descends from its founder, by invitations.
* `not_acting_of_retired` — a retired agent acts no more.
* `not_acting_in_absent` — nobody acts in a group that is not there.
-/

namespace Lib.Delegation

open History

variable {K R : Type*}

/-! ## What happens -/

inductive Right
  | read
  | manage
  deriving DecidableEq

/-- A principal, by itself or through an agent of its own. -/
inductive Who (K : Type*)
  | person (principal : K)
  | agent (agent principal : K)
  deriving DecidableEq

def Who.principal : Who K → K
  | .person principal | .agent _ principal => principal

inductive Event (K R : Type*)
  | enrol (agent owner label credential : K)
  | withdraw (agent : K)
  | renew (agent credential : K)
  | retire (agent : K)
  | authenticate (agent owner credential : K)
  | found (group : K) (who : Who K)
  /-- The right rests on the founding, or on the role of an agent. -/
  | grant (right : Right) (group : K) (who : Who K) (evidence : Option K)
  | invite (invitation group : K) (role : R) (who : Who K)
  | enter (group agent : K) (role : R) (invitation : K)
  /-- An admission is taken back. -/
  | undo (group agent : K)
  | expel (group agent : K) (who : Who K)
  | disband (group : K) (who : Who K)
  | dissolve (group : K) (who : Who K)
  /-- Somebody is told who is in the group. -/
  | list (group : K) (who : Who K) (entries : List (K × R))
  /-- A service is told whether somebody is in the group. -/
  | attest (group label : K) (answer : Bool)
  deriving DecidableEq

structure Standing (K : Type*) where
  owner : K
  label : K
  active : Bool
  credential : Option K

structure Scene (K R : Type*) where
  agent : K → Option (Standing K)
  founder : K → Option K
  /-- The role of an agent in a group. -/
  role : K × K → Option R

def Scene.empty : Scene K R := ⟨fun _ => none, fun _ => none, fun _ => none⟩

/-- The standing of an agent after its credential was renewed. -/
def Standing.renewed (credential : K) (standing : Standing K) : Standing K :=
  { standing with credential := some credential }

def Standing.retired (standing : Standing K) : Standing K := { standing with active := false }

section
variable [DecidableEq K]

def Scene.after (s : Scene K R) : Event K R → Scene K R
  | .enrol agent owner label credential =>
      let standing : Standing K := { owner, label, active := true, credential := some credential }
      { s with agent := Function.update s.agent agent (some standing) }
  | .withdraw agent => { s with agent := Function.update s.agent agent none }
  | .renew agent credential =>
      let standing := (s.agent agent).map (Standing.renewed credential)
      { s with agent := Function.update s.agent agent standing }
  | .retire agent =>
      let standing := (s.agent agent).map Standing.retired
      { s with agent := Function.update s.agent agent standing }
  | .found group who => { s with founder := Function.update s.founder group (some who.principal) }
  | .enter group agent role _ =>
      { s with role := Function.update s.role (group, agent) (some role) }
  | .undo group agent | .expel group agent _ =>
      { s with role := Function.update s.role (group, agent) none }
  | .disband group _ => { s with role := fun key => if key.1 = group then none else s.role key }
  | .dissolve group _ => { s with founder := Function.update s.founder group none }
  | .authenticate _ _ _ | .grant _ _ _ _ | .invite _ _ _ _ | .list _ _ _ | .attest _ _ _ => s

/-- What a history amounts to. -/
def Scene.of : List (Event K R) → Scene K R
  | [] => .empty
  | e :: past => (Scene.of past).after e

@[simp] theorem Scene.of_nil : Scene.of ([] : List (Event K R)) = .empty := rfl

@[simp] theorem Scene.of_cons (e : Event K R) (past : List (Event K R)) :
    Scene.of (e :: past) = (Scene.of past).after e := rfl

end

/-! ## What is allowed -/

/-- An agent stands for its owner once it is authenticated; a person comes authenticated. -/
def Authentic (past : List (Event K R)) : Who K → Prop
  | .person _ => True
  | .agent agent owner => ∃ credential, .authenticate agent owner credential ∈ past

def Granted (past : List (Event K R)) (right : Right) (group : K) (who : Who K) : Prop :=
  ∃ evidence, .grant right group who evidence ∈ past

/-- Who is in a group: the active agents that have a role. -/
def Scene.Contains (s : Scene K R) (group label : K) (role : R) : Prop :=
  ∃ agent standing, s.agent agent = some standing ∧ standing.label = label ∧
    standing.active = true ∧ s.role (group, agent) = some role

section
variable (manages : R → Prop)

def Right.Allows : Right → R → Prop
  | .read, _ => True
  | .manage, role => manages role

/-- What a right rests on. -/
def Scene.Supports (s : Scene K R) (right : Right) (group : K) (who : Who K) : Option K → Prop
  | none => s.founder group = some who.principal
  | some evidence =>
      (∃ role, s.role (group, evidence) = some role ∧ right.Allows manages role) ∧
        match who with
        | .person principal =>
            ∃ standing, s.agent evidence = some standing ∧ standing.owner = principal ∧
              standing.active = true
        | .agent agent _ => evidence = agent

variable [DecidableEq K]

/-- An entry is allowed by the entries before it. -/
def Allowed (past : List (Event K R)) : Event K R → Prop
  | .enrol agent _ _ _ => (Scene.of past).agent agent = none
  | .withdraw agent => ∀ group, (Scene.of past).role (group, agent) = none
  | .renew agent _ => ∃ standing, (Scene.of past).agent agent = some standing ∧
      standing.active = true
  | .retire _ => True
  | .authenticate agent owner credential => ∃ standing,
      (Scene.of past).agent agent = some standing ∧ standing.owner = owner ∧
        standing.active = true ∧ standing.credential = some credential
  | .found group who => (Scene.of past).founder group = none ∧ Authentic past who
  | .grant right group who evidence =>
      Authentic past who ∧ (Scene.of past).Supports manages right group who evidence
  | .invite _ group _ who => Granted past .manage group who ∧ (Scene.of past).founder group ≠ none
  | .enter group agent role invitation =>
      (∃ who, .invite invitation group role who ∈ past) ∧
        (∃ owner credential, .authenticate agent owner credential ∈ past) ∧
        (Scene.of past).role (group, agent) = none ∧ (Scene.of past).founder group ≠ none
  | .undo group agent => ∃ role invitation, .enter group agent role invitation ∈ past
  | .expel group _ who | .disband group who => Granted past .manage group who
  | .dissolve group who => Granted past .manage group who ∧
      ∀ agent, (Scene.of past).role (group, agent) = none
  | .list group who entries => Granted past .read group who ∧
      ∀ label role, (label, role) ∈ entries ↔ (Scene.of past).Contains group label role
  | .attest group label answer =>
      answer = true ↔ ∃ role, (Scene.of past).Contains group label role

end

/-! ## Where authority comes from -/

section
variable (manages : R → Prop)

/-- A chain of principals: the founder of the group, or the owner of an agent that was admitted to
manage it by the invitation of one who descends from the founder. -/
inductive Descends (log : List (Event K R)) (group : K) : K → Prop
  | founder {who : Who K} (h : .found group who ∈ log) : Descends log group who.principal
  | invited {agent owner label credential invitation : K} {role : R} {inviter : Who K}
      (henrol : .enrol agent owner label credential ∈ log)
      (henter : .enter group agent role invitation ∈ log) (hrole : manages role)
      (hinvite : .invite invitation group role inviter ∈ log)
      (hgrant : Granted log .manage group inviter)
      (hinviter : Descends log group inviter.principal) : Descends log group owner

end

section
variable {manages : R → Prop} {log past : List (Event K R)} {group agent principal : K}

theorem Granted.mono {right : Right} {who : Who K} (h : Granted past right group who)
    (hsub : past ⊆ log) : Granted log right group who :=
  h.imp fun _ hgrant => hsub hgrant

theorem Descends.mono (h : Descends manages past group principal) (hsub : past ⊆ log) :
    Descends manages log group principal := by
  induction h with
  | founder h => exact .founder (hsub h)
  | invited henrol henter hrole hinvite hgrant _ ih =>
      exact .invited (hsub henrol) (hsub henter) hrole (hsub hinvite) (hgrant.mono hsub) ih

variable [DecidableEq K]

/-- The founder of a group has founded it. -/
theorem found_of_founder (h : (Scene.of log).founder group = some principal) :
    ∃ who : Who K, who.principal = principal ∧ .found group who ∈ log := by
  induction log with
  | nil => cases h
  | cons e past ih =>
      have hold (h : (Scene.of past).founder group = some principal) :
          ∃ who : Who K, who.principal = principal ∧ .found group who ∈ e :: past := by
        obtain ⟨who, hwho, hmem⟩ := ih h
        exact ⟨who, hwho, List.mem_cons_of_mem _ hmem⟩
      cases e with
      | found founded who =>
          by_cases hgroup : group = founded
          · subst hgroup
            simp only [Scene.of_cons, Scene.after, Function.update_self, Option.some.injEq] at h
            exact ⟨who, h, List.mem_cons_self⟩
          · simp only [Scene.of_cons, Scene.after, Function.update_of_ne hgroup] at h
            exact hold h
      | dissolve dissolved who =>
          by_cases hgroup : group = dissolved
          · subst hgroup
            simp [Scene.after] at h
          · simp only [Scene.of_cons, Scene.after, Function.update_of_ne hgroup] at h
            exact hold h
      | _ => exact hold h

/-- An agent that has a role was admitted in it. -/
theorem enter_of_role {role : R} (h : (Scene.of log).role (group, agent) = some role) :
    ∃ invitation, .enter group agent role invitation ∈ log := by
  induction log with
  | nil => cases h
  | cons e past ih =>
      have hold (h : (Scene.of past).role (group, agent) = some role) :
          ∃ invitation, .enter group agent role invitation ∈ e :: past :=
        (ih h).imp fun _ hmem => List.mem_cons_of_mem _ hmem
      have hremoved {g a : K}
          (h : Function.update (Scene.of past).role (g, a) none (group, agent) = some role) :
          ∃ invitation, .enter group agent role invitation ∈ e :: past := by
        by_cases hkey : (group, agent) = (g, a)
        · simp [hkey] at h
        · rw [Function.update_of_ne hkey] at h
          exact hold h
      cases e with
      | enter g a admitted invitation =>
          by_cases hkey : (group, agent) = (g, a)
          · obtain ⟨rfl, rfl⟩ := Prod.mk.inj hkey
            simp only [Scene.of_cons, Scene.after, Function.update_self, Option.some.injEq] at h
            subst h
            exact ⟨invitation, List.mem_cons_self⟩
          · simp only [Scene.of_cons, Scene.after, Function.update_of_ne hkey] at h
            exact hold h
      | undo g a => exact hremoved h
      | expel g a who => exact hremoved h
      | disband g who =>
          simp only [Scene.of_cons, Scene.after] at h
          split at h
          · cases h
          · exact hold h
      | _ => exact hold h

/-- An agent was enrolled by its owner. -/
theorem enrol_of_agent {standing : Standing K} (h : (Scene.of log).agent agent = some standing) :
    ∃ credential, .enrol agent standing.owner standing.label credential ∈ log := by
  induction log generalizing standing with
  | nil => cases h
  | cons e past ih =>
      have hold {standing : Standing K} (h : (Scene.of past).agent agent = some standing) :
          ∃ credential, .enrol agent standing.owner standing.label credential ∈ e :: past :=
        (ih h).imp fun _ hmem => List.mem_cons_of_mem _ hmem
      -- an update of the standing that keeps the owner and the label
      have hkept {a : K} {f : Standing K → Standing K} (howner : ∀ st, (f st).owner = st.owner)
          (hlabel : ∀ st, (f st).label = st.label)
          (h : Function.update (Scene.of past).agent a (((Scene.of past).agent a).map f) agent =
            some standing) :
          ∃ credential, .enrol agent standing.owner standing.label credential ∈ e :: past := by
        by_cases hagent : agent = a
        · subst hagent
          rw [Function.update_self] at h
          obtain ⟨before, hbefore, rfl⟩ := Option.map_eq_some_iff.mp h
          rw [howner, hlabel]
          exact hold hbefore
        · rw [Function.update_of_ne hagent] at h
          exact hold h
      cases e with
      | enrol a owner label credential =>
          by_cases hagent : agent = a
          · subst hagent
            simp only [Scene.of_cons, Scene.after, Function.update_self, Option.some.injEq] at h
            subst h
            exact ⟨credential, List.mem_cons_self⟩
          · simp only [Scene.of_cons, Scene.after, Function.update_of_ne hagent] at h
            exact hold h
      | withdraw a =>
          by_cases hagent : agent = a
          · subst hagent
            simp [Scene.after] at h
          · simp only [Scene.of_cons, Scene.after, Function.update_of_ne hagent] at h
            exact hold h
      | renew a credential =>
          exact hkept (f := Standing.renewed credential) (fun _ => rfl) (fun _ => rfl) h
      | retire a => exact hkept (f := Standing.retired) (fun _ => rfl) (fun _ => rfl) h
      | _ => exact hold h

/-- An agent that was authenticated for a principal was enrolled by it. -/
theorem enrol_of_authenticate {credential : K} (h : Legal (Allowed manages) log)
    (hmem : .authenticate agent principal credential ∈ log) :
    ∃ label first, .enrol agent principal label first ∈ log := by
  obtain ⟨later, past, rfl, standing, hstanding, rfl, -⟩ := h.allowed_of_mem hmem
  obtain ⟨first, henrol⟩ := enrol_of_agent hstanding
  exact ⟨standing.label, first, List.mem_append_right _ (List.mem_cons_of_mem _ henrol)⟩

/-- A right to manage that rests on a role goes back to the one who has invited the agent. -/
theorem descends_of_role {role : R} {owner label credential : K} (h : Legal (Allowed manages) log)
    (ih : ∀ who : Who K, Granted log .manage group who → Descends manages log group who.principal)
    (hrole : (Scene.of log).role (group, agent) = some role) (hmanages : manages role)
    (henrol : .enrol agent owner label credential ∈ log) : Descends manages log group owner := by
  obtain ⟨invitation, henter⟩ := enter_of_role hrole
  obtain ⟨later, past, rfl, ⟨inviter, hinvite⟩, -⟩ := h.allowed_of_mem henter
  have hsub : past ⊆ later ++ .enter group agent role invitation :: past :=
    fun _ hmem => List.mem_append_right _ (List.mem_cons_of_mem _ hmem)
  have hpast : Legal (Allowed manages) (.enter group agent role invitation :: past) := h.past
  obtain ⟨between, before, rfl, hgranted, -⟩ := hpast.2.allowed_of_mem hinvite
  have hearlier : before ⊆ between ++ .invite invitation group role inviter :: before :=
    fun _ hmem => List.mem_append_right _ (List.mem_cons_of_mem _ hmem)
  have hgrant := (hgranted.mono hearlier).mono hsub
  exact .invited henrol henter hmanages (hsub hinvite) hgrant (ih inviter hgrant)

/-- **Authority descends from the founder.** -/
theorem descends_of_grant {who : Who K} (h : Legal (Allowed manages) log)
    (hgrant : Granted log .manage group who) : Descends manages log group who.principal := by
  induction log generalizing who with
  | nil =>
      obtain ⟨evidence, hmem⟩ := hgrant
      cases hmem
  | cons e past ih =>
      have hsub : past ⊆ e :: past := fun _ hmem => List.mem_cons_of_mem _ hmem
      obtain ⟨evidence, hmem⟩ := hgrant
      rcases List.mem_cons.mp hmem with rfl | hold
      · obtain ⟨hauthentic, hsupports⟩ := h.1
        cases evidence with
        | none =>
            obtain ⟨founder, hfounder, hfound⟩ := found_of_founder hsupports
            rw [← hfounder]
            exact .founder (hsub hfound)
        | some evidence =>
            obtain ⟨⟨role, hrole, hmanages⟩, hwho⟩ := hsupports
            have henrol : ∃ label credential,
                .enrol evidence who.principal label credential ∈ past := by
              cases who with
              | person principal =>
                  obtain ⟨standing, hstanding, rfl, -⟩ := hwho
                  obtain ⟨credential, henrol⟩ := enrol_of_agent hstanding
                  exact ⟨standing.label, credential, henrol⟩
              | agent agent principal =>
                  obtain rfl := hwho
                  obtain ⟨credential, hauthenticate⟩ := hauthentic
                  exact enrol_of_authenticate h.2 hauthenticate
            obtain ⟨label, credential, henrol⟩ := henrol
            exact (descends_of_role h.2 (fun who hold => ih h.2 hold) hrole hmanages henrol).mono hsub
      · exact (ih h.2 ⟨evidence, hold⟩).mono hsub

/-! ## What ends authority -/

/-- The agent is there, and is not active. -/
def Scene.Retired (s : Scene K R) (agent : K) : Prop :=
  ∃ standing, s.agent agent = some standing ∧ standing.active = false

/-- An agent that is retired stays so, while it is there. -/
theorem retired_after {e : Event K R} (h : (Scene.of past).Retired agent)
    (hallowed : Allowed manages past e) (hkept : e ≠ .withdraw agent) :
    (Scene.of (e :: past)).Retired agent := by
  obtain ⟨standing, hstanding, hactive⟩ := h
  have hother {a : K} {entry : Option (Standing K)} (hagent : agent ≠ a) :
      ∃ st, Function.update (Scene.of past).agent a entry agent = some st ∧ st.active = false := by
    rw [Function.update_of_ne hagent]
    exact ⟨standing, hstanding, hactive⟩
  cases e with
  | enrol a owner label credential =>
      refine hother ?_
      rintro rfl
      rw [Allowed, hstanding] at hallowed
      cases hallowed
  | withdraw a =>
      refine hother ?_
      rintro rfl
      exact hkept rfl
  | renew a credential =>
      refine hother ?_
      rintro rfl
      obtain ⟨st, hst, hlive⟩ := hallowed
      obtain rfl := Option.some.inj (hstanding.symm.trans hst)
      rw [hactive] at hlive
      cases hlive
  | retire a =>
      by_cases hagent : agent = a
      · subst hagent
        refine ⟨standing.retired, ?_, rfl⟩
        simp [Scene.after, hstanding]
      · exact hother hagent
  | _ => exact ⟨standing, hstanding, hactive⟩

theorem retired_since {later : List (Event K R)} (h : (Scene.of past).Retired agent)
    (hlegal : Legal (Allowed manages) (later ++ past)) (hkept : .withdraw agent ∉ later) :
    (Scene.of (later ++ past)).Retired agent := by
  induction later with
  | nil => exact h
  | cons e later ih =>
      refine retired_after (ih hlegal.2 ?_) hlegal.1 ?_
      · exact fun hmem => hkept (List.mem_cons_of_mem _ hmem)
      · rintro rfl
        exact hkept List.mem_cons_self

/-- An entry in the middle of what has happened since. -/
theorem allowed_since {later : List (Event K R)} {e : Event K R}
    (h : Legal (Allowed manages) (later ++ past)) (he : e ∈ later) :
    ∃ between before, later = between ++ e :: before ∧ Allowed manages (before ++ past) e ∧
      Legal (Allowed manages) (before ++ past) := by
  obtain ⟨between, before, rfl⟩ := List.append_of_mem he
  rw [List.append_assoc] at h
  exact ⟨between, before, rfl, h.allowed, h.past.2⟩

/-- A retired agent is not authenticated, and its roles give its owner no right. -/
theorem not_acting_of_retired {later : List (Event K R)}
    (h : Legal (Allowed manages) (later ++ past)) (hretired : (Scene.of past).Retired agent)
    (hkept : .withdraw agent ∉ later) :
    (∀ owner credential, .authenticate agent owner credential ∉ later) ∧
      ∀ right group principal, .grant right group (.person principal) (some agent) ∉ later := by
  have hstill {between before : List (Event K R)} {e : Event K R}
      (heq : later = between ++ e :: before) (hlegal : Legal (Allowed manages) (before ++ past)) :
      (Scene.of (before ++ past)).Retired agent := by
    refine retired_since hretired hlegal ?_
    intro hmem
    rw [heq] at hkept
    exact hkept (List.mem_append_right _ (List.mem_cons_of_mem _ hmem))
  have hcontra {s : Scene K R} {standing : Standing K} (hs : s.Retired agent)
      (hstanding : s.agent agent = some standing) (hactive : standing.active = true) : False := by
    obtain ⟨st, hst, hinactive⟩ := hs
    obtain rfl := Option.some.inj (hst.symm.trans hstanding)
    rw [hinactive] at hactive
    cases hactive
  refine ⟨?_, ?_⟩
  · intro owner credential hmem
    obtain ⟨between, before, heq, ⟨standing, hstanding, -, hactive, -⟩, hlegal⟩ :=
      allowed_since h hmem
    exact hcontra (hstill heq hlegal) hstanding hactive
  · intro right group principal hmem
    obtain ⟨between, before, heq, ⟨-, -, standing, hstanding, -, hactive⟩, hlegal⟩ :=
      allowed_since h hmem
    exact hcontra (hstill heq hlegal) hstanding hactive

/-- A group that is not there comes into being by its founding only. -/
theorem founder_since {later : List (Event K R)} (h : (Scene.of past).founder group = none)
    (hfound : ∀ founder, .found group founder ∉ later) :
    (Scene.of (later ++ past)).founder group = none := by
  induction later with
  | nil => exact h
  | cons e later ih =>
      have hnone := ih fun founder hmem => hfound founder (List.mem_cons_of_mem _ hmem)
      cases e with
      | found founded founder =>
          by_cases hgroup : group = founded
          · subst hgroup
            exact absurd List.mem_cons_self (hfound founder)
          · simpa [Scene.after, Function.update_of_ne hgroup] using hnone
      | dissolve dissolved dissolver =>
          by_cases hgroup : group = dissolved
          · simp [Scene.after, hgroup]
          · simpa [Scene.after, Function.update_of_ne hgroup] using hnone
      | _ => exact hnone

/-- Only a group that is there has members. -/
theorem founder_of_role {role : R} (h : Legal (Allowed manages) log)
    (hrole : (Scene.of log).role (group, agent) = some role) :
    (Scene.of log).founder group ≠ none := by
  induction log with
  | nil => cases hrole
  | cons e past ih =>
      have hupdated {g a : K} {entry : Option R}
          (hrole : Function.update (Scene.of past).role (g, a) entry (group, agent) = some role)
          (hentry : entry ≠ none → (Scene.of past).founder g ≠ none) :
          (Scene.of past).founder group ≠ none := by
        by_cases hkey : (group, agent) = (g, a)
        · rw [hkey, Function.update_self] at hrole
          obtain ⟨rfl, -⟩ := Prod.mk.inj hkey
          exact hentry (by simp [hrole])
        · rw [Function.update_of_ne hkey] at hrole
          exact ih h.2 hrole
      cases e with
      | enter g a admitted invitation => exact hupdated hrole fun _ => h.1.2.2.2
      | undo g a => exact hupdated hrole fun hne => absurd rfl hne
      | expel g a who => exact hupdated hrole fun hne => absurd rfl hne
      | disband g who =>
          simp only [Scene.of_cons, Scene.after] at hrole ⊢
          split at hrole
          · cases hrole
          · exact ih h.2 hrole
      | found g who =>
          have hbefore := ih h.2 hrole
          by_cases hgroup : group = g
          · simp [Scene.after, hgroup]
          · simpa [Scene.after, Function.update_of_ne hgroup] using hbefore
      | dissolve g who =>
          have hbefore := ih h.2 hrole
          by_cases hgroup : group = g
          · subst hgroup
            have hnone := h.1.2 agent
            change (Scene.of past).role (group, agent) = some role at hrole
            rw [hrole] at hnone
            cases hnone
          · simpa [Scene.after, Function.update_of_ne hgroup] using hbefore
      | _ => exact ih h.2 hrole

/-- Into a group that is not there nobody is admitted or invited, and nobody has a right to it. -/
theorem not_acting_in_absent {later : List (Event K R)}
    (h : Legal (Allowed manages) (later ++ past)) (hnone : (Scene.of past).founder group = none)
    (hfound : ∀ founder, .found group founder ∉ later) :
    (∀ agent role invitation, .enter group agent role invitation ∉ later) ∧
      (∀ invitation role inviter, .invite invitation group role inviter ∉ later) ∧
      ∀ right who evidence, .grant right group who evidence ∉ later := by
  have hstill {between before : List (Event K R)} {e : Event K R}
      (heq : later = between ++ e :: before) : (Scene.of (before ++ past)).founder group = none := by
    refine founder_since hnone ?_
    intro founder hmem
    refine hfound founder ?_
    rw [heq]
    exact List.mem_append_right _ (List.mem_cons_of_mem _ hmem)
  refine ⟨?_, ?_, ?_⟩
  · intro agent role invitation hmem
    obtain ⟨between, before, heq, ⟨-, -, -, hfounder⟩, -⟩ := allowed_since h hmem
    exact hfounder (hstill heq)
  · intro invitation role inviter hmem
    obtain ⟨between, before, heq, ⟨-, hfounder⟩, -⟩ := allowed_since h hmem
    exact hfounder (hstill heq)
  · intro right who evidence hmem
    obtain ⟨between, before, heq, ⟨-, hsupports⟩, hlegal⟩ := allowed_since h hmem
    cases evidence with
    | none =>
        have hfounder := hstill heq
        rw [Scene.Supports, hfounder] at hsupports
        cases hsupports
    | some evidence =>
        obtain ⟨⟨role, hrole, -⟩, -⟩ := hsupports
        exact founder_of_role hlegal hrole (hstill heq)

end

end Lib.Delegation
