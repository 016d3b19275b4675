import Clawdentity.Js.Text
import Clawdentity.Lib.FixedWindow
import Clawdentity.Lib.OrderedMap
import Mathlib.Algebra.Order.Ring.Rat
import Mathlib.Data.List.Dedup
import Mathlib.Data.List.Perm.Subperm
import Mathlib.Tactic.Linarith

/-!
# Rate limits in memory

A limiter keeps a bucket for each client with a count of its requests in a window of fixed length,
which starts with the first of them. Buckets whose window is over are removed at each request; when
there are too many, the oldest makes room for a new one, and its count is forgotten.

## Main definitions

* `rateLimit` — one request.
* `LimitKept` — what is promised of a run.
* `rate_limit_kept`.
-/

namespace Clawdentity.RateLimit

open Js Lib Lib.FixedWindow

structure InMemoryBucket where
  windowStartedAtMs : ℚ
  count : ℕ
  deriving DecidableEq

structure RateLimitOptions where
  bucketKey : JsString
  maxRequests : ℕ
  maxBuckets : ℕ
  windowMs : ℚ

/-- A request, with the clock and the header `cf-connecting-ip`. -/
structure Request where
  nowMs : ℚ
  cfConnectingIp : Option JsString

abbrev Buckets := OrderedMap JsString InMemoryBucket

def resolveClientIp (request : Request) : JsString :=
  match request.cfConnectingIp with
  | some cfIp => if 0 < (trim cfIp).length then trim cfIp else js "unknown"
  | none => js "unknown"

variable (options : RateLimitOptions)

def RateLimitOptions.key (clientIp : JsString) : JsString := options.bucketKey ++ js ":" ++ clientIp

/-- The key of the bucket that started first. -/
def oldestKey (buckets : Buckets) : Option JsString :=
  (buckets.entries.foldl (fun oldest e =>
    match oldest with
    | some o =>
        if e.2.windowStartedAtMs < o.2.windowStartedAtMs then some e else some o
    | none => some e) none).map Prod.fst

/-- The buckets with the oldest removed. -/
def evictOldest (buckets : Buckets) : Buckets :=
  match oldestKey buckets with
  | some key => if key.isEmpty then buckets else buckets.delete key
  | none => buckets

/-- The buckets whose window is not over. -/
def sweep (buckets : Buckets) (now : ℚ) : Buckets :=
  buckets.keep fun e => !decide (options.windowMs ≤ now - e.2.windowStartedAtMs)

/-- A request: the buckets after it, and the bucket in which it was counted, or `none` where it is
refused. -/
def rateLimit (buckets : Buckets) (request : Request) : Buckets × Option InMemoryBucket :=
  let now := request.nowMs
  let buckets := sweep options buckets now
  let key := options.key (resolveClientIp request)
  let existing := buckets.get? key
  match existing.filter fun bucket => !decide (options.windowMs ≤ now - bucket.windowStartedAtMs) with
  | none =>
      let buckets :=
        if existing.isNone && options.maxBuckets ≤ buckets.size then evictOldest buckets else buckets
      let bucket := { windowStartedAtMs := now, count := 1 }
      (buckets.set key bucket, some bucket)
  | some existing =>
      if options.maxRequests ≤ existing.count then (buckets, none)
      else
        let bucket := { existing with count := existing.count + 1 }
        (buckets.set key bucket, some bucket)

/-- The buckets, and the requests that were let through, each with its client. -/
structure State where
  buckets : Buckets
  passed : List (JsString × Use ℚ)

def State.empty : State := ⟨.empty, []⟩

def step (s : State) (request : Request) : State :=
  let answer := rateLimit options s.buckets request
  { buckets := answer.1
    passed := s.passed ++ (answer.2.map fun bucket =>
      (resolveClientIp request, ⟨bucket.windowStartedAtMs, request.nowMs⟩)).toList }

def run (requests : List Request) : State := requests.foldl (step options) .empty

/-- The requests of a client that were let through. -/
def State.passedOf (s : State) (client : JsString) : List (Use ℚ) :=
  (s.passed.filter fun e => decide (e.1 = client)).map Prod.snd

/-! ## What is promised -/

/-- What the callers pass. -/
structure RateLimitOptions.Positive : Prop where
  requests : 0 < options.maxRequests
  buckets : 0 < options.maxBuckets
  window : 0 < options.windowMs

/-- The buckets are bounded, and so are the requests that are let through, where all clients have
a bucket: in the windows of a bucket, which do not overlap, and in each span of the length of a
window. -/
structure LimitKept (requests : List Request) (s : State) : Prop where
  size : s.buckets.size ≤ options.maxBuckets
  windows : (requests.map resolveClientIp).dedup.length ≤ options.maxBuckets → ∀ client,
    Bounded options.windowMs options.maxRequests (s.passedOf client)
  span : (requests.map resolveClientIp).dedup.length ≤ options.maxBuckets → ∀ client t,
    (s.passedOf client).countP (fun u => decide (t ≤ u.time ∧ u.time ≤ t + options.windowMs)) ≤
      2 * options.maxRequests

/-! ## One request -/

section
variable {options : RateLimitOptions} {buckets : Buckets} {request : Request} {s : State}
  {clients : List JsString} {client : JsString} {now : ℚ} {bucket : InMemoryBucket}

theorem key_inj {c d : JsString} (h : options.key c = options.key d) : c = d :=
  List.append_cancel_left h

theorem get?_sweep : (sweep options buckets now).get? (options.key client) = some bucket ↔
    buckets.get? (options.key client) = some bucket ∧
      now < bucket.windowStartedAtMs + options.windowMs := by
  rw [sweep, OrderedMap.get?_keep_eq_some]
  simp only [Bool.not_eq_eq_eq_not, Bool.not_true, decide_eq_false_iff_not, not_le,
    sub_lt_iff_lt_add']

/-- **A request that opens a window.** -/
theorem rateLimit_of_none
    (h : (sweep options buckets request.nowMs).get? (options.key (resolveClientIp request)) =
      none) :
    rateLimit options buckets request =
      ((if options.maxBuckets ≤ (sweep options buckets request.nowMs).size then
          evictOldest (sweep options buckets request.nowMs)
        else sweep options buckets request.nowMs).set (options.key (resolveClientIp request))
          ⟨request.nowMs, 1⟩, some ⟨request.nowMs, 1⟩) := by
  simp only [rateLimit, h, Option.filter_none, Option.isNone_none, Bool.true_and,
    decide_eq_true_eq]

/-- **A request in an open window** is refused, or counted in it. -/
theorem rateLimit_of_some
    (h : (sweep options buckets request.nowMs).get? (options.key (resolveClientIp request)) =
      some bucket) :
    rateLimit options buckets request =
      if options.maxRequests ≤ bucket.count then (sweep options buckets request.nowMs, none)
      else
        ((sweep options buckets request.nowMs).set (options.key (resolveClientIp request))
          { bucket with count := bucket.count + 1 },
            some { bucket with count := bucket.count + 1 }) := by
  have hopen : ¬ options.windowMs ≤ request.nowMs - bucket.windowStartedAtMs := by
    have hswept := (get?_sweep.mp h).2
    rw [not_le]
    linarith
  simp only [rateLimit, h, Option.filter_some, decide_eq_false hopen, Bool.not_false, if_true]

/-! ## The number of buckets -/

/-- Every key is that of one of the clients. -/
def KeysOf (options : RateLimitOptions) (clients : List JsString) (buckets : Buckets) : Prop :=
  ∀ key ∈ buckets.keys, ∃ client ∈ clients, key = options.key client

theorem mem_keys_of_mem_keep {p : JsString × InMemoryBucket → Bool} {key : JsString}
    (h : key ∈ (buckets.keep p).keys) : key ∈ buckets.keys :=
  (List.filter_sublist.map Prod.fst).mem h

/-- The oldest key is a key, if there is one. -/
theorem oldestKey_mem (h : buckets.entries ≠ []) :
    ∃ key ∈ buckets.keys, oldestKey buckets = some key := by
  have hfold : ∀ (entries : List (JsString × InMemoryBucket)) (oldest : JsString × InMemoryBucket),
      ∃ e ∈ oldest :: entries, entries.foldl (fun oldest e =>
        match oldest with
        | some o => if e.2.windowStartedAtMs < o.2.windowStartedAtMs then some e else some o
        | none => some e) (some oldest) = some e := by
    intro entries
    induction entries with
    | nil => exact fun oldest => ⟨oldest, List.mem_cons_self, rfl⟩
    | cons a rest ih =>
        intro oldest
        simp only [List.foldl_cons]
        split
        · obtain ⟨e, he, hrest⟩ := ih a
          exact ⟨e, List.mem_cons_of_mem _ he, hrest⟩
        · obtain ⟨e, he, hrest⟩ := ih oldest
          refine ⟨e, ?_, hrest⟩
          obtain rfl | he := List.mem_cons.mp he
          · exact List.mem_cons_self
          · exact List.mem_cons_of_mem _ (List.mem_cons_of_mem _ he)
  cases hentries : buckets.entries with
  | nil => exact absurd hentries h
  | cons a rest =>
      obtain ⟨e, he, hrest⟩ := hfold rest a
      refine ⟨e.1, ?_, ?_⟩
      · rw [OrderedMap.keys, hentries]
        exact List.mem_map_of_mem he
      · rw [oldestKey, hentries, List.foldl_cons, hrest, Option.map_some]

theorem keysOf_evictOldest (h : KeysOf options clients buckets) :
    KeysOf options clients (evictOldest buckets) := by
  unfold evictOldest
  split
  · split
    · exact h
    · exact fun key hkey => h key (mem_keys_of_mem_keep hkey)
  · exact h

/-- The oldest bucket makes room. -/
theorem size_evictOldest_lt (h : KeysOf options clients buckets) (hsize : 0 < buckets.size) :
    (evictOldest buckets).size < buckets.size := by
  obtain ⟨key, hkey, holdest⟩ := oldestKey_mem (List.length_pos_iff.mp hsize)
  obtain ⟨client, _, rfl⟩ := h key hkey
  have hfilled : (options.key client).isEmpty = false := by
    simp [RateLimitOptions.key, show js ":" ≠ [] by decide]
  simp only [evictOldest, holdest, hfilled, Bool.false_eq_true, if_false]
  exact OrderedMap.size_delete_lt hkey

theorem keysOf_set (h : KeysOf options clients buckets) (hclient : client ∈ clients) :
    KeysOf options clients (buckets.set (options.key client) bucket) := by
  intro key hkey
  rw [OrderedMap.keys_set] at hkey
  split at hkey
  · exact h key hkey
  · obtain hkey | hkey := List.mem_append.mp hkey
    · exact h key hkey
    · exact ⟨client, hclient, List.mem_singleton.mp hkey⟩

/-- The buckets after a request. -/
theorem buckets_rateLimit (hbuckets : 0 < options.maxBuckets) (h : KeysOf options clients buckets)
    (hsize : buckets.size ≤ options.maxBuckets) (hclient : resolveClientIp request ∈ clients) :
    KeysOf options clients (rateLimit options buckets request).1 ∧
      (rateLimit options buckets request).1.size ≤ options.maxBuckets := by
  have hswept : KeysOf options clients (sweep options buckets request.nowMs) :=
    fun key hkey => h key (mem_keys_of_mem_keep hkey)
  have hless : (sweep options buckets request.nowMs).size ≤ options.maxBuckets :=
    OrderedMap.size_keep_le.trans hsize
  cases hget : (sweep options buckets request.nowMs).get?
      (options.key (resolveClientIp request)) with
  | none =>
      rw [rateLimit_of_none hget]
      split
      · rename_i hfull
        have hroom := size_evictOldest_lt hswept (hbuckets.trans_le hfull)
        exact ⟨keysOf_set (keysOf_evictOldest hswept) hclient,
          OrderedMap.size_set_le.trans (by omega)⟩
      · exact ⟨keysOf_set hswept hclient, OrderedMap.size_set_le.trans (by omega)⟩
  | some bucket =>
      rw [rateLimit_of_some hget]
      split
      · exact ⟨hswept, hless⟩
      · refine ⟨keysOf_set hswept hclient, ?_⟩
        have hmem : options.key (resolveClientIp request) ∈
            (sweep options buckets request.nowMs).keys := by
          by_contra hnot
          rw [OrderedMap.get?_eq_none.mpr hnot] at hget
          cases hget
        rw [OrderedMap.size_set_of_mem hmem]
        exact hless

/-- Where every client can have a bucket, none is removed for a new one. -/
theorem size_lt_of_client (hclients : clients.dedup.length ≤ options.maxBuckets)
    (h : KeysOf options clients buckets) (hclient : client ∈ clients)
    (hnew : buckets.get? (options.key client) = none) : buckets.size < options.maxBuckets := by
  have hnodup : (options.key client :: buckets.keys).Nodup :=
    List.nodup_cons.mpr ⟨OrderedMap.get?_eq_none.mp hnew, buckets.nodup⟩
  have hsubset : (options.key client :: buckets.keys) ⊆ clients.dedup.map options.key := by
    intro key hkey
    obtain rfl | hkey := List.mem_cons.mp hkey
    · exact List.mem_map_of_mem (List.mem_dedup.mpr hclient)
    · obtain ⟨c, hc, rfl⟩ := h key hkey
      exact List.mem_map_of_mem (List.mem_dedup.mpr hc)
  have hlength := (List.subperm_of_subset hnodup hsubset).length_le
  rw [List.length_cons, List.length_map, ← OrderedMap.size_eq] at hlength
  omega

/-! ## The windows -/

/-- The open window in a bucket. -/
def InMemoryBucket.counter (bucket : InMemoryBucket) : ℚ × ℕ :=
  (bucket.windowStartedAtMs, bucket.count)

/-- The buckets count what was let through. -/
def Counted (options : RateLimitOptions) (now : ℚ) (s : State) : Prop :=
  ∀ client, Bounded options.windowMs options.maxRequests (s.passedOf client) ∧
    Counts options.windowMs now (s.passedOf client)
      ((s.buckets.get? (options.key client)).map InMemoryBucket.counter)

theorem counted_empty (options : RateLimitOptions) (now : ℚ) : Counted options now .empty :=
  fun _ => ⟨bounded_nil, nofun⟩

theorem counted_sweep (h : Counted options now s) {now' : ℚ} (hnow : now ≤ now') :
    Counted options now' { s with buckets := sweep options s.buckets now' } := by
  intro client
  obtain ⟨hbounded, hcounts⟩ := h client
  refine ⟨hbounded, ?_⟩
  cases hget : s.buckets.get? (options.key client) with
  | none =>
      have hswept : (sweep options s.buckets now').get? (options.key client) = none := by
        refine Option.eq_none_iff_forall_ne_some.mpr fun bucket hbucket => ?_
        rw [(get?_sweep.mp hbucket).1] at hget
        cases hget
      rw [hget] at hcounts
      rw [hswept]
      exact hcounts.later hnow
  | some bucket =>
      rw [hget] at hcounts
      by_cases hopen : now' < bucket.windowStartedAtMs + options.windowMs
      · rw [get?_sweep.mpr ⟨hget, hopen⟩]
        exact hcounts.later hnow
      · have hswept : (sweep options s.buckets now').get? (options.key client) = none := by
          refine Option.eq_none_iff_forall_ne_some.mpr fun bucket' hbucket => ?_
          obtain ⟨hsame, hopen'⟩ := get?_sweep.mp hbucket
          cases hget.symm.trans hsame
          exact hopen hopen'
        rw [hswept]
        exact hcounts.close (not_lt.mp hopen)

theorem passedOf_append (s : State) (use : Use ℚ) (client client' : JsString) (buckets : Buckets) :
    State.passedOf ⟨buckets, s.passed ++ [(client, use)]⟩ client' =
      s.passedOf client' ++ if client = client' then [use] else [] := by
  rw [State.passedOf, State.passedOf, List.filter_append, List.map_append]
  by_cases hclient : client = client' <;> simp [hclient]

variable (bucket) in
/-- A request that was counted in a bucket of its client. -/
theorem counted_pass (h : Counted options now s)
    (hclient : Bounded options.windowMs options.maxRequests
        (s.passedOf client ++ [⟨bucket.windowStartedAtMs, now⟩]) ∧
      Counts options.windowMs now (s.passedOf client ++ [⟨bucket.windowStartedAtMs, now⟩])
        (some bucket.counter)) :
    Counted options now
      { buckets := s.buckets.set (options.key client) bucket
        passed := s.passed ++ [(client, ⟨bucket.windowStartedAtMs, now⟩)] } := by
  intro client'
  rw [passedOf_append]
  by_cases hsame : client = client'
  · subst hsame
    rw [if_pos rfl, OrderedMap.get?_set_self, Option.map_some]
    exact hclient
  · rw [if_neg hsame, List.append_nil,
      OrderedMap.get?_set_of_ne fun hkey => hsame (key_inj hkey).symm]
    exact h client'

/-- **A request keeps the count**, where every client can have a bucket. -/
theorem counted_step (hoptions : options.Positive) (h : Counted options now s)
    (hnow : now ≤ request.nowMs) (hclients : clients.dedup.length ≤ options.maxBuckets)
    (hkeys : KeysOf options clients s.buckets) (hclient : resolveClientIp request ∈ clients) :
    Counted options request.nowMs (step options s request) := by
  have hswept := counted_sweep h hnow
  have hkeys' : KeysOf options clients (sweep options s.buckets request.nowMs) :=
    fun key hkey => hkeys key (mem_keys_of_mem_keep hkey)
  obtain ⟨hbounded, hcounts⟩ := hswept (resolveClientIp request)
  unfold step
  cases hget : (sweep options s.buckets request.nowMs).get?
      (options.key (resolveClientIp request)) with
  | none =>
      have hroom := size_lt_of_client hclients hkeys' hclient hget
      rw [rateLimit_of_none hget, if_neg (Nat.not_le.mpr hroom)]
      rw [hget] at hcounts
      exact counted_pass _ hswept (hbounded.open hcounts hoptions.window hoptions.requests)
  | some bucket =>
      rw [hget] at hcounts
      rw [rateLimit_of_some hget]
      split
      · simpa using hswept
      · rename_i hless
        exact counted_pass { bucket with count := bucket.count + 1 } hswept
          (hbounded.use hcounts (get?_sweep.mp hget).2 (Nat.lt_of_not_le hless))

/-! ## Runs -/

theorem buckets_run (hbuckets : 0 < options.maxBuckets) {requests : List Request}
    (hclients : ∀ request ∈ requests, resolveClientIp request ∈ clients)
    (h : KeysOf options clients s.buckets) (hsize : s.buckets.size ≤ options.maxBuckets) :
    (requests.foldl (step options) s).buckets.size ≤ options.maxBuckets := by
  induction requests generalizing s with
  | nil => exact hsize
  | cons request rest ih =>
      obtain ⟨hkeys, hless⟩ :=
        buckets_rateLimit hbuckets h hsize (hclients request List.mem_cons_self)
      exact ih (s := step options s request)
        (fun r hr => hclients r (List.mem_cons_of_mem _ hr)) hkeys hless

theorem counted_run (hoptions : options.Positive) {requests : List Request}
    (htimes : requests.Pairwise fun a b => a.nowMs ≤ b.nowMs)
    (hnow : ∀ request ∈ requests, now ≤ request.nowMs)
    (hcard : clients.dedup.length ≤ options.maxBuckets)
    (hclients : ∀ request ∈ requests, resolveClientIp request ∈ clients)
    (h : Counted options now s) (hkeys : KeysOf options clients s.buckets)
    (hsize : s.buckets.size ≤ options.maxBuckets) :
    ∃ now, Counted options now (requests.foldl (step options) s) := by
  induction requests generalizing s now with
  | nil => exact ⟨now, h⟩
  | cons request rest ih =>
      obtain ⟨hfirst, hrest⟩ := List.pairwise_cons.mp htimes
      have hclient := hclients request List.mem_cons_self
      obtain ⟨hkeys', hsize'⟩ := buckets_rateLimit hoptions.buckets hkeys hsize hclient
      exact ih (s := step options s request) hrest hfirst
        (fun r hr => hclients r (List.mem_cons_of_mem _ hr))
        (counted_step hoptions h (hnow request List.mem_cons_self) hcard hkeys hclient) hkeys' hsize'

/-- **The rate limit is kept** by every sequence of requests whose times do not decrease. -/
theorem rate_limit_kept (hoptions : options.Positive) {requests : List Request}
    (htimes : requests.Pairwise fun a b => a.nowMs ≤ b.nowMs) :
    LimitKept options requests (run options requests) := by
  have hclients : ∀ request ∈ requests, resolveClientIp request ∈ requests.map resolveClientIp :=
    fun request hrequest => List.mem_map_of_mem hrequest
  have hempty : KeysOf options (requests.map resolveClientIp) State.empty.buckets := nofun
  have hbounded : (requests.map resolveClientIp).dedup.length ≤ options.maxBuckets → ∀ client,
      Bounded options.windowMs options.maxRequests ((run options requests).passedOf client) := by
    intro hcard client
    cases requests with
    | nil => exact bounded_nil
    | cons request rest =>
        have hnow : ∀ r ∈ request :: rest, request.nowMs ≤ r.nowMs := by
          intro r hr
          obtain rfl | hr := List.mem_cons.mp hr
          · exact le_rfl
          · exact (List.pairwise_cons.mp htimes).1 r hr
        obtain ⟨now, hcounted⟩ := counted_run hoptions htimes hnow hcard hclients
          (counted_empty options request.nowMs) hempty (Nat.zero_le _)
        exact (hcounted client).1
  exact ⟨buckets_run hoptions.buckets hclients hempty (Nat.zero_le _), hbounded,
    fun hcard client t => (hbounded hcard client).span_le t⟩

end

/-! ### Two windows of one client -/

section Example

/-- Two requests a minute, and two buckets. -/
def exampleOptions : RateLimitOptions where
  bucketKey := js "resolve"
  maxRequests := 2
  maxBuckets := 2
  windowMs := 60000

def exampleRequest (nowMs : ℚ) : Request where
  nowMs := nowMs
  cfConnectingIp := some (js " 192.0.2.1 ")

/-- The third request is refused; the last two are in the next window. -/
def exampleRequests : List Request :=
  [exampleRequest 59000, exampleRequest 118000, exampleRequest 118500, exampleRequest 119000,
    exampleRequest 119500]

theorem exampleRequests_kept :
    ((run exampleOptions exampleRequests).passedOf (js "192.0.2.1")).map Use.time =
        [59000, 118000, 119000, 119500] ∧
      LimitKept exampleOptions exampleRequests (run exampleOptions exampleRequests) :=
  ⟨by decide +kernel, rate_limit_kept ⟨by decide, by decide, by decide +kernel⟩ (by decide +kernel)⟩

end Example

end Clawdentity.RateLimit
