import Clawdentity.Lib.Bytes
import Clawdentity.Lib.Pages
import Clawdentity.Protocol.Crl
import Clawdentity.Protocol.Identifiers
import Clawdentity.Registry.AgentRevocation
import Mathlib.Data.List.Lex
import Mathlib.Data.List.Sort

/-!
# The agent list

`GET /v1/agents` lists the agents of a human in pages, the latest first. The query names a status,
a framework, a limit and the cursor after which the page starts, which is the id of the last agent
of the page before. Texts are compared by their UTF-8 bytes, as the database does.

## Main definitions

* `parseAgentListQuery` — the query, or what is wrong with its fields.
* `listAgents` — the answer of the route.
* `agent_list_complete` — the pages are the agents that match.
-/

namespace Clawdentity.AgentList

open Js Lib.Pages
open Protocol (hasControlChars isUlid)
open AgentRevocation (Status)

def DEFAULT_AGENT_LIST_LIMIT : ℕ := 20
def MAX_AGENT_LIST_LIMIT : ℕ := 100
def MAX_FRAMEWORK_LENGTH : ℕ := 32

/-- A row of `agents`, with the columns that the route uses. -/
structure AgentRow where
  id : JsString
  did : JsString
  ownerId : JsString
  name : JsString
  framework : Option JsString
  status : Status
  expiresAt : Option JsString
  deriving DecidableEq

/-- The parameters of the query. -/
structure QueryRecord where
  status : Option JsString
  framework : Option JsString
  limit : Option JsString
  cursor : Option JsString
  deriving DecidableEq

structure AgentListQuery where
  status : Option Status
  framework : Option JsString
  limit : ℕ
  cursor : Option JsString
  deriving DecidableEq

structure ListedAgent where
  id : JsString
  did : JsString
  name : JsString
  status : Status
  expires : Option JsString
  deriving DecidableEq

structure AgentListResponse where
  agents : List ListedAgent
  limit : ℕ
  nextCursor : Option JsString
  deriving DecidableEq

/-- The errors of fields, each with its field and in their order. -/
abbrev FieldErrors := List (String × String)

/-! ## The query -/

def parseStatus : Option JsString → Option Status × FieldErrors
  | none => (none, [])
  | some input =>
      if input = js "active" then (some .active, [])
      else if input = js "revoked" then (some .revoked, [])
      else (none, [("status", "status must be either 'active' or 'revoked'")])

def parseFramework : Option JsString → Option JsString × FieldErrors
  | none => (none, [])
  | some input =>
      let value := trim input
      if value.length = 0 then (none, [("framework", "framework is required")])
      else
        (some value,
          (if MAX_FRAMEWORK_LENGTH < value.length then
            [("framework", "framework must be at most 32 characters")] else []) ++
          if hasControlChars value then [("framework", "framework contains control characters")]
          else [])

/-- The argument is `Number`, with `none` for what is not finite. -/
def parseLimit (number : JsString → Option ℚ) : Option JsString → ℕ × FieldErrors
  | none => (DEFAULT_AGENT_LIST_LIMIT, [])
  | some input =>
      match number input with
      | none => (DEFAULT_AGENT_LIST_LIMIT, [("limit", "limit must be an integer")])
      | some value =>
          if !value.isInt then (DEFAULT_AGENT_LIST_LIMIT, [("limit", "limit must be an integer")])
          else if value.num < 1 || (MAX_AGENT_LIST_LIMIT : ℤ) < value.num then
            (DEFAULT_AGENT_LIST_LIMIT, [("limit", "limit must be between 1 and 100")])
          else (value.num.toNat, [])

def parseCursor : Option JsString → Option JsString × FieldErrors
  | none => (none, [])
  | some input =>
      let value := trim input
      if value.length = 0 then (none, [("cursor", "cursor is required")])
      else if isUlid value then (some value, [])
      else (none, [("cursor", "cursor must be a valid ULID")])

def parseAgentListQuery (number : JsString → Option ℚ) (query : QueryRecord) :
    Except FieldErrors AgentListQuery :=
  let status := parseStatus query.status
  let framework := parseFramework query.framework
  let limit := parseLimit number query.limit
  let cursor := parseCursor query.cursor
  let fieldErrors := status.2 ++ framework.2 ++ limit.2 ++ cursor.2
  if fieldErrors.isEmpty then
    .ok { status := status.1, framework := framework.1, limit := limit.1, cursor := cursor.1 }
  else .error fieldErrors

/-! ## The answer -/

def mapAgentListRow (row : AgentRow) : ListedAgent where
  id := row.id
  did := row.did
  name := row.name
  status := row.status
  expires := row.expiresAt

/-- The UTF-8 bytes of a text. -/
def textBytes (s : JsString) : List ℕ := (Lib.utf8 (Lib.Utf16.toScalars s)).map UInt8.toNat

/-- The filters of the query, without the cursor. -/
def AgentListQuery.matches (query : AgentListQuery) (ownerId : JsString) (row : AgentRow) : Bool :=
  row.ownerId = ownerId && query.status.all (row.status = ·) &&
    query.framework.all (row.framework = some ·)

/-- The rows of the `SELECT`: `WHERE`, `ORDER BY id DESC` and `LIMIT`. -/
def selectAgents (agents : List AgentRow) (ownerId : JsString) (query : AgentListQuery)
    (limit : ℕ) : List AgentRow :=
  ((agents.filter fun row => query.matches ownerId row &&
      query.cursor.all fun cursor => decide (textBytes row.id < textBytes cursor)).insertionSort
    fun a b => textBytes b.id ≤ textBytes a.id).take limit

/-- The answer to a query of a human. -/
def listAgents (number : JsString → Option ℚ) (agents : List AgentRow) (humanId : JsString)
    (query : QueryRecord) : Except FieldErrors AgentListResponse := do
  let query ← parseAgentListQuery number query
  let rows := selectAgents agents humanId query (query.limit + 1)
  let hasNextPage := query.limit < rows.length
  let pageRows := if hasNextPage then rows.take query.limit else rows
  let nextCursor := if hasNextPage then pageRows.getLast?.map AgentRow.id else none
  return { agents := pageRows.map mapAgentListRow, limit := query.limit, nextCursor }

/-- The page of an answer, with the cursor in the query. -/
def fetchPage (number : JsString → Option ℚ) (agents : List AgentRow) (humanId : JsString)
    (query : QueryRecord) (cursor : Option JsString) : Option (Page ListedAgent JsString) :=
  (listAgents number agents humanId { query with cursor }).toOption.map fun response =>
    { rows := response.agents, nextCursor := response.nextCursor }

/-- The agents of the owner that match the query, the latest first. -/
structure Listed (agents : List AgentRow) (ownerId : JsString) (query : AgentListQuery)
    (rows : List AgentRow) : Prop where
  matching : rows.Perm (agents.filter (query.matches ownerId))
  descending : rows.Pairwise fun a b => textBytes b.id < textBytes a.id

section
variable {number : JsString → Option ℚ} {agents rows : List AgentRow} {humanId : JsString}
  {query : QueryRecord} {parsed : AgentListQuery} {a b : AgentRow}

/-! ## The order of the ids -/

theorem textBytes_inj {s t : JsString} (hs : isUlid s = true) (ht : isUlid t = true)
    (h : textBytes s = textBytes t) : s = t := by
  have hencode : ∀ {u : JsString}, isUlid u = true →
      Lib.Utf16.encode (Lib.Utf16.toScalars u) = u := by
    intro u hu
    have hbasic : ∀ x ∈ u, x.toNat < 0xD800 := fun x hx =>
      (Protocol.isUlid_lt hu x hx).trans (by decide)
    have hunits := Lib.Utf16.encode_map_ofUnit hbasic
    rw [← hunits, Lib.Utf16.toScalars_encode]
  have hbytes : Lib.Utf16.toScalars s = Lib.Utf16.toScalars t :=
    Lib.utf8_injective (List.map_injective_iff.mpr (fun _ _ => UInt8.toNat_inj.mp) h)
  rw [← hencode hs, ← hencode ht, hbytes]

/-- The ids are ULIDs, and no two of them are equal. -/
def DistinctUlids (agents : List AgentRow) : Prop :=
  (agents.map AgentRow.id).Nodup ∧ ∀ row ∈ agents, isUlid row.id = true

theorem eq_of_textBytes (h : DistinctUlids agents) (ha : a ∈ agents) (hb : b ∈ agents)
    (hbytes : textBytes a.id = textBytes b.id) : a = b :=
  List.inj_on_of_nodup_map h.1 ha hb (textBytes_inj (h.2 a ha) (h.2 b hb) hbytes)

/-- `ORDER BY id DESC`. -/
def sortAgents (rows : List AgentRow) : List AgentRow :=
  rows.insertionSort fun a b => textBytes b.id ≤ textBytes a.id

theorem sortAgents_perm (rows : List AgentRow) : (sortAgents rows).Perm rows :=
  List.perm_insertionSort _ rows

theorem sortAgents_pairwise (rows : List AgentRow) :
    (sortAgents rows).Pairwise fun a b => textBytes b.id ≤ textBytes a.id := by
  have : Std.Total fun a b : AgentRow => textBytes b.id ≤ textBytes a.id :=
    ⟨fun a b => le_total _ _⟩
  have : IsTrans AgentRow fun a b => textBytes b.id ≤ textBytes a.id :=
    ⟨fun _ _ _ hab hbc => hbc.trans hab⟩
  exact List.pairwise_insertionSort _ rows

theorem sortAgents_descending (h : DistinctUlids agents) (hrows : rows.Sublist agents) :
    (sortAgents rows).Pairwise fun a b => textBytes b.id < textBytes a.id := by
  have hids : ((sortAgents rows).map AgentRow.id).Nodup :=
    ((sortAgents_perm rows).map AgentRow.id).nodup_iff.mpr (h.1.sublist (hrows.map _))
  have hne : (sortAgents rows).Pairwise fun a b => a.id ≠ b.id := List.pairwise_map.mp hids
  refine ((sortAgents_pairwise rows).and hne).imp_of_mem fun {a b} ha hb hab => ?_
  refine lt_of_le_of_ne hab.1 fun hbytes => hab.2 ?_
  have hmem := fun {x} (hx : x ∈ sortAgents rows) =>
    hrows.mem ((sortAgents_perm rows).mem_iff.mp hx)
  rw [eq_of_textBytes h (hmem hb) (hmem ha) hbytes]

/-- **The cursor leaves the rows after it** of all that match. -/
theorem selectAgents_eq (h : DistinctUlids agents) (cursor : Option JsString) (limit : ℕ) :
    selectAgents agents humanId { parsed with cursor } limit =
      (after AgentRow.id textBytes cursor
        (sortAgents (agents.filter (parsed.matches humanId)))).take limit := by
  refine congrArg (List.take limit) ?_
  have hfilter : (agents.filter fun row => parsed.matches humanId row &&
      cursor.all fun c => decide (textBytes row.id < textBytes c)) =
      after AgentRow.id textBytes cursor (agents.filter (parsed.matches humanId)) := by
    unfold after
    rw [List.filter_filter]
    exact List.filter_congr fun row _ => Bool.and_comm _ _
  refine List.Perm.eq_of_pairwise (fun a b ha hb hab hba => ?_) (sortAgents_pairwise _)
    ((sortAgents_pairwise _).sublist List.filter_sublist) ?_
  · have ha' := (List.perm_insertionSort _ _).mem_iff.mp ha
    have hb' := (sortAgents_perm _).mem_iff.mp (List.mem_filter.mp hb).1
    exact eq_of_textBytes h (List.mem_filter.mp ha').1 (List.mem_filter.mp hb').1
      (le_antisymm hba hab)
  · refine (sortAgents_perm _).trans ?_
    show (agents.filter fun row => parsed.matches humanId row &&
      cursor.all fun c => decide (textBytes row.id < textBytes c)).Perm _
    rw [hfilter]
    exact ((sortAgents_perm _).symm.filter _)

/-! ## The pages -/

theorem parseCursor_id {id : JsString} (h : isUlid id = true) :
    parseCursor (some id) = (some id, []) := by
  have hlength : id.length ≠ 0 := by
    rw [Ne, List.length_eq_zero_iff]
    exact Protocol.ne_nil_of_isUlid h
  simp only [parseCursor, (Protocol.isUlid_graphic h).trim_eq, if_neg hlength, h, if_true]

/-- The query of the next page: its cursor is read as it was written. -/
theorem parseAgentListQuery_cursor (hquery : parseAgentListQuery number query = .ok parsed)
    (hfirst : query.cursor = none) {cursor : Option JsString}
    (hcursor : ∀ c ∈ cursor, isUlid c = true) :
    parseAgentListQuery number { query with cursor } = .ok { parsed with cursor } := by
  have hread : parseCursor cursor = (cursor, []) := by
    cases cursor with
    | none => rfl
    | some c => exact parseCursor_id (hcursor c rfl)
  simp only [parseAgentListQuery, hfirst, hread, show parseCursor none = (none, []) from rfl,
    List.append_nil] at hquery ⊢
  split at hquery
  · rename_i hempty
    rw [if_pos hempty]
    cases hquery
    rfl
  · cases hquery

theorem parseLimit_range (number : JsString → Option ℚ) (input : Option JsString) :
    1 ≤ (parseLimit number input).1 ∧ (parseLimit number input).1 ≤ MAX_AGENT_LIST_LIMIT := by
  unfold parseLimit
  split
  · decide
  · split
    · decide
    · split
      · decide
      · rename_i value _ _
        split
        · decide
        · rename_i hrange
          simp only [Bool.or_eq_true, decide_eq_true_eq, not_or, not_lt] at hrange
          have hmax : value.num ≤ 100 := hrange.2
          show 1 ≤ value.num.toNat ∧ value.num.toNat ≤ 100
          omega

/-- Every query has a limit in the bounds. -/
theorem parseAgentListQuery_limit (hquery : parseAgentListQuery number query = .ok parsed) :
    1 ≤ parsed.limit ∧ parsed.limit ≤ MAX_AGENT_LIST_LIMIT := by
  simp only [parseAgentListQuery] at hquery
  split at hquery
  · cases hquery
    exact parseLimit_range number query.limit
  · cases hquery

theorem fetchPage_eq (h : DistinctUlids agents)
    (hquery : parseAgentListQuery number query = .ok parsed) (hfirst : query.cursor = none)
    {cursor : Option JsString} (hcursor : ∀ c ∈ cursor, isUlid c = true) :
    fetchPage number agents humanId query cursor =
      some (page ListedAgent.id parsed.limit
        ((after ListedAgent.id textBytes cursor
          ((sortAgents (agents.filter (parsed.matches humanId))).map mapAgentListRow)).take
            (parsed.limit + 1))) := by
  have hafter : ∀ rows : List AgentRow, after ListedAgent.id textBytes cursor
      (rows.map mapAgentListRow) = (after AgentRow.id textBytes cursor rows).map mapAgentListRow :=
    fun rows => List.filter_map
  simp only [fetchPage, listAgents, parseAgentListQuery_cursor hquery hfirst hcursor, hafter]
  have hselect : selectAgents agents humanId { parsed with cursor } (parsed.limit + 1) =
      (after AgentRow.id textBytes cursor
        (sortAgents (agents.filter (parsed.matches humanId)))).take (parsed.limit + 1) :=
    selectAgents_eq h cursor (parsed.limit + 1)
  generalize after AgentRow.id textBytes cursor
    (sortAgents (agents.filter (parsed.matches humanId))) = rows at hselect ⊢
  have hlast : ∀ rows : List AgentRow, (rows.map mapAgentListRow).getLast?.map ListedAgent.id =
      rows.getLast?.map AgentRow.id := by
    intro rows
    rw [List.getLast?_map, Option.map_map]
    rfl
  simp only [bind, Except.bind, pure, Except.pure, Except.toOption, Option.map_some, page,
    hselect, ← List.map_take, List.length_map, hlast]
  split <;> rfl

/-- **The agent list is complete.** For every query without a cursor, reading from the first page
on ends, and the pages are all agents of the human that match, the latest first and each once; all
pages but the last are full. -/
theorem agent_list_complete (h : DistinctUlids agents)
    (hquery : parseAgentListQuery number query = .ok parsed) (hfirst : query.cursor = none) :
    ∃ pages rows, Follows (fetchPage number agents humanId query) none pages ∧
      Listed agents humanId parsed rows ∧
      Cover parsed.limit (rows.map mapAgentListRow) pages := by
  have hsorted : (sortAgents (agents.filter (parsed.matches humanId))).Pairwise fun a b =>
      textBytes b.id < textBytes a.id := sortAgents_descending h List.filter_sublist
  have hfetch : ∀ cursor, (∀ c ∈ cursor,
      ∃ r ∈ (sortAgents (agents.filter (parsed.matches humanId))).map mapAgentListRow, r.id = c) →
      fetchPage number agents humanId query cursor = some (page ListedAgent.id parsed.limit
        ((after ListedAgent.id textBytes cursor
          ((sortAgents (agents.filter (parsed.matches humanId))).map mapAgentListRow)).take
            (parsed.limit + 1))) := by
    refine fun cursor hcursor => fetchPage_eq h hquery hfirst fun c hc => ?_
    obtain ⟨listed, hlisted, rfl⟩ := hcursor c hc
    obtain ⟨row, hrow, rfl⟩ := List.mem_map.mp hlisted
    exact h.2 row (List.mem_filter.mp ((sortAgents_perm _).mem_iff.mp hrow)).1
  have hrows : ((sortAgents (agents.filter (parsed.matches humanId))).map mapAgentListRow).Pairwise
      fun a b => textBytes b.id < textBytes a.id := List.pairwise_map.mpr hsorted
  obtain ⟨pages, hpages, hcover⟩ :=
    follows_after (parseAgentListQuery_limit hquery).1 hrows hfetch none nofun
  refine ⟨pages, _, hpages, ⟨sortAgents_perm _, hsorted⟩, ?_⟩
  have hall : after ListedAgent.id textBytes none
      ((sortAgents (agents.filter (parsed.matches humanId))).map mapAgentListRow) = _ :=
    List.filter_true _
  rwa [hall] at hcover

end

/-! ### Two full pages -/

section Example

/-- An agent whose id ends in the digit. -/
def exampleAgent (digit : UInt16) (framework : Option JsString) : AgentRow where
  id := js "01HF7YAT00M5H6RVQ6Q6N1W30" ++ [digit]
  did := js "did:cdi:a.example:agent:01HF7YAT00M5H6RVQ6Q6N1W30" ++ [digit]
  ownerId := js "human"
  name := js "kai"
  framework := framework
  status := .active
  expiresAt := none

def exampleAgents : List AgentRow :=
  [exampleAgent 0x32 (some (js "generic")), exampleAgent 0x34 (some (js "generic")),
    exampleAgent 0x30 none, exampleAgent 0x31 (some (js "generic")),
    exampleAgent 0x33 (some (js "generic"))]

/-- Two active agents of the framework a page. -/
def exampleQuery : QueryRecord where
  status := some (js "active")
  framework := some (js "generic")
  limit := some (js "2")
  cursor := none

/-- `Number`, on the limit of the query. -/
def exampleNumber (text : JsString) : Option ℚ := if text = js "2" then some 2 else none

theorem exampleAgents_listed :
    ∃ pages rows, Follows (fetchPage exampleNumber exampleAgents (js "human") exampleQuery) none
      pages ∧ Listed exampleAgents (js "human") ⟨some .active, some (js "generic"), 2, none⟩ rows ∧
        Cover 2 (rows.map mapAgentListRow) pages := by
  have hagents : DistinctUlids exampleAgents := ⟨by decide +kernel, by decide +kernel⟩
  have hquery : parseAgentListQuery exampleNumber exampleQuery =
      .ok ⟨some .active, some (js "generic"), 2, none⟩ := by
    decide +kernel
  exact agent_list_complete hagents hquery rfl

end Example

end Clawdentity.AgentList
