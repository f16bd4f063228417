import PathTemplates.Proofs.Table

set_option autoImplicit false

/-!
What a router remembers are the keys asked for last since its last registration, each once and the latest in front, as many as
there is room for. So a request is answered from there if and only if its key was asked for before and fewer other keys than
there is room for have been asked for since.
-/

namespace PathTemplates

-- Keys in the order of their last use, each once. Both lists have the latest in front.
def recency : List CacheKey → List CacheKey
  | [] => []
  | key :: earlier => key :: (recency earlier).filter (· ≠ key)

-- Whether a key was asked for before, and since then fewer different keys than there is room for.
def Reused (capacity : Nat) (key : CacheKey) (earlier : List CacheKey) : Prop :=
  key ∈ earlier ∧ (earlier.takeWhile (· ≠ key)).toFinset.card < capacity

instance (capacity : Nat) (key : CacheKey) (earlier : List CacheKey) : Decidable (Reused capacity key earlier) :=
  inferInstanceAs (Decidable (_ ∧ _))

def reusedCount (capacity : Nat) : List CacheKey → Nat
  | [] => 0
  | key :: earlier => reusedCount capacity earlier + if Reused capacity key earlier then 1 else 0

theorem mem_recency (keys : List CacheKey) (key : CacheKey) : key ∈ recency keys ↔ key ∈ keys := by
  induction keys with
  | nil => rfl
  | cons first earlier ih =>
      by_cases same : key = first
      · simp [recency, same]
      · simp [recency, same, ih]

theorem recency_nodup (keys : List CacheKey) : (recency keys).Nodup := by
  induction keys with
  | nil => exact .nil
  | cons first earlier ih =>
      refine List.nodup_cons.mpr ⟨?_, ih.filter _⟩
      simp

theorem recency_length (keys : List CacheKey) : (recency keys).length = keys.toFinset.card := by
  rw [← List.toFinset_card_of_nodup (recency_nodup keys)]
  congr 1
  ext key
  simp [mem_recency]

theorem take_while_filter (key first : CacheKey) (keys : List CacheKey) (different : first ≠ key) :
    (keys.filter (· ≠ first)).takeWhile (· ≠ key) = (keys.takeWhile (· ≠ key)).filter (· ≠ first) := by
  rw [List.takeWhile_filter]
  congr 2
  funext next
  by_cases skipped : next = first
  · simp [skipped, different]
  · simp [skipped]

theorem recency_until (keys : List CacheKey) (key : CacheKey) :
    (recency keys).takeWhile (· ≠ key) = recency (keys.takeWhile (· ≠ key)) := by
  induction keys with
  | nil => rfl
  | cons first earlier ih =>
      by_cases found : first = key
      · simp [recency, found]
      · have inside := take_while_filter key first (recency earlier) found
        rw [ih] at inside
        simpa [recency, found] using inside

theorem mem_take_iff_before (keys : List CacheKey) (key : CacheKey) (capacity : Nat) (member : key ∈ keys) :
    key ∈ keys.take capacity ↔ (keys.takeWhile (· ≠ key)).length < capacity := by
  induction keys generalizing capacity with
  | nil => cases member
  | cons first rest ih =>
      cases capacity with
      | zero => simp
      | succ capacity =>
          by_cases found : first = key
          · simp [found]
          · have later : key ∈ rest := (List.mem_cons.mp member).resolve_left (Ne.symm found)
            simp [found, Ne.symm found, ih capacity later]

-- The keys that came since the last use of a key are those before it in the order of last use.
theorem reused_iff (capacity : Nat) (key : CacheKey) (earlier : List CacheKey) :
    Reused capacity key earlier ↔ key ∈ (recency earlier).take capacity := by
  rw [Reused, ← recency_length, ← recency_until, ← mem_recency]
  constructor
  · intro ⟨member, few⟩
    exact (mem_take_iff_before _ key capacity member).mpr few
  · intro taken
    have member := List.mem_of_mem_take taken
    exact ⟨member, (mem_take_iff_before _ key capacity member).mp taken⟩

theorem take_filter (keys : List CacheKey) (key : CacheKey) (n : Nat) (nodup : keys.Nodup) :
    ((keys.take (n + 1)).filter (· ≠ key)).take n = (keys.filter (· ≠ key)).take n := by
  induction keys generalizing n with
  | nil => rfl
  | cons first rest ih =>
      obtain ⟨unique, tail⟩ := List.nodup_cons.mp nodup
      by_cases found : first = key
      · have kept (list : List CacheKey) (within : list ⊆ rest) : list.filter (· ≠ key) = list := by
          refine List.filter_eq_self.mpr fun next member => decide_eq_true fun same : next = key => unique ?_
          rw [found, ← same]
          exact within member
        have gone (list : List CacheKey) : (first :: list).filter (· ≠ key) = list.filter (· ≠ key) :=
          List.filter_cons_of_neg (by simpa using found)
        rw [List.take_succ_cons, gone, gone, kept rest (List.Subset.refl rest), kept _ (List.take_subset n rest),
          List.take_take, Nat.min_self]
      · have stays (list : List CacheKey) : (first :: list).filter (· ≠ key) = first :: list.filter (· ≠ key) :=
          List.filter_cons_of_pos (by simpa using found)
        cases n with
        | zero => rfl
        | succ n => rw [List.take_succ_cons, stays, stays, List.take_succ_cons, List.take_succ_cons, ih n tail]

-- What an eviction takes away would not be among the first keys anyway, once another key stands in front.
theorem take_front (keys : List CacheKey) (key : CacheKey) (capacity : Nat) (nodup : keys.Nodup) :
    (key :: (keys.take capacity).filter (· ≠ key)).take capacity = (key :: keys.filter (· ≠ key)).take capacity := by
  cases capacity with
  | zero => rfl
  | succ n => rw [List.take_succ_cons, List.take_succ_cons, take_filter keys key n nodup]

namespace Cache

def keys (cache : Cache) : List CacheKey := cache.entries.map (·.1)

theorem found_iff_key (cache : Cache) (key : CacheKey) :
    (∃ answer, cache.entries.lookup key = some answer) ↔ key ∈ cache.keys := by
  rw [← Option.isSome_iff_exists, List.lookup_isSome_iff, keys, List.mem_map]
  constructor
  · intro ⟨entry, member, same⟩
    exact ⟨entry, member, (eq_of_beq same).symm⟩
  · intro ⟨entry, member, same⟩
    exact ⟨entry, member, beq_iff_eq.mpr same.symm⟩

theorem without_keys (key : CacheKey) (entries : List (CacheKey × Option String)) :
    (without key entries).map (·.1) = (entries.map (·.1)).filter (· ≠ key) := by
  rw [without, List.filter_map]
  rfl

structure Latest (cache : Cache) (asked : List CacheKey) : Prop where
  keys : cache.keys = (recency asked).take cache.capacity
  hits : cache.hits = reusedCount cache.capacity asked
  lookups : cache.hits + cache.misses = asked.length

theorem fetch_found (cache : Cache) (key : CacheKey) (answer : Option String)
    (found : cache.entries.lookup key = some answer) :
    (cache.fetch key).1 =
      { cache with entries := (key, answer) :: without key cache.entries, hits := cache.hits + 1 } := by
  rw [fetch, found]

theorem fetch_missing (cache : Cache) (key : CacheKey) (missing : cache.entries.lookup key = none) :
    (cache.fetch key).1 = { cache with misses := cache.misses + 1 } := by
  rw [fetch, missing]

theorem fetch_capacity (cache : Cache) (key : CacheKey) : (cache.fetch key).1.capacity = cache.capacity := by
  unfold fetch
  cases cache.entries.lookup key <;> rfl

theorem latest_nothing (capacity : Nat) : Latest ⟨capacity, [], 0, 0⟩ [] := ⟨by simp [keys, recency], rfl, rfl⟩

section Latest

variable (cache : Cache) (asked : List CacheKey) (latest : Latest cache asked)

include latest

theorem found_iff_reused (key : CacheKey) :
    (∃ answer, cache.entries.lookup key = some answer) ↔ Reused cache.capacity key asked := by
  rw [found_iff_key, latest.keys, reused_iff]

-- The key found leaves its old place free, so there is room for it in front.
theorem found_fits (key : CacheKey) (member : key ∈ cache.keys) :
    (key :: cache.keys.filter (· ≠ key)).length ≤ cache.capacity := by
  have fewer : (cache.keys.filter (· ≠ key)).length < cache.keys.length :=
    List.length_filter_lt_length_iff_exists.mpr ⟨key, member, by simp⟩
  have bound : cache.keys.length ≤ cache.capacity := by
    rw [latest.keys]
    exact List.length_take_le _ _
  exact Nat.le_trans fewer bound

theorem keys_after (key : CacheKey) :
    (key :: cache.keys.filter (· ≠ key)).take cache.capacity = (recency (key :: asked)).take cache.capacity := by
  rw [latest.keys, take_front _ _ _ (recency_nodup asked), recency]

theorem latest_found (key : CacheKey) (answer : Option String) (found : cache.entries.lookup key = some answer) :
    Latest (cache.fetch key).1 (key :: asked) := by
  have reused := (found_iff_reused cache asked latest key).mp ⟨answer, found⟩
  have member := (found_iff_key cache key).mp ⟨answer, found⟩
  rw [fetch_found cache key answer found]
  refine ⟨?_, ?_, ?_⟩
  · calc key :: (without key cache.entries).map (·.1)
        = key :: cache.keys.filter (· ≠ key) := congrArg (List.cons key) (without_keys key cache.entries)
      _ = (key :: cache.keys.filter (· ≠ key)).take cache.capacity :=
          (List.take_of_length_le (found_fits cache asked latest key member)).symm
      _ = (recency (key :: asked)).take cache.capacity := keys_after cache asked latest key
  · rw [reusedCount, if_pos reused, ← latest.hits]
  · have lookups := latest.lookups
    change cache.hits + 1 + cache.misses = asked.length + 1
    omega

theorem latest_missed (key : CacheKey) (answer : Option String) (missing : cache.entries.lookup key = none) :
    Latest ((cache.fetch key).1.store key answer) (key :: asked) := by
  have fresh : ¬ Reused cache.capacity key asked := by
    intro reused
    obtain ⟨other, found⟩ := (found_iff_reused cache asked latest key).mpr reused
    rw [missing] at found
    cases found
  rw [fetch_missing cache key missing]
  refine ⟨?_, ?_, ?_⟩
  · calc (((key, answer) :: without key cache.entries).take cache.capacity).map (·.1)
        = (key :: cache.keys.filter (· ≠ key)).take cache.capacity := by
          rw [List.map_take, List.map_cons, without_keys]
          rfl
      _ = (recency (key :: asked)).take cache.capacity := keys_after cache asked latest key
  · change cache.hits = reusedCount cache.capacity (key :: asked)
    rw [reusedCount, if_neg fresh, Nat.add_zero, latest.hits]
  · exact congrArg (· + 1) latest.lookups

theorem counts_fit (fewer : asked.length < 2 ^ 64) :
    (UInt64.ofNat cache.hits).toNat = cache.hits ∧ (UInt64.ofNat cache.misses).toNat = cache.misses ∧
      (UInt64.ofNat cache.hits + UInt64.ofNat cache.misses).toNat = cache.hits + cache.misses := by
  have lookups : cache.hits + cache.misses < UInt64.size := latest.lookups.trans_lt fewer
  have hits := UInt64.toNat_ofNat_of_lt' (Nat.lt_of_le_of_lt (Nat.le_add_right _ _) lookups)
  have misses := UInt64.toNat_ofNat_of_lt' (Nat.lt_of_le_of_lt (Nat.le_add_left _ _) lookups)
  refine ⟨hits, misses, ?_⟩
  rw [UInt64.toNat_add, hits, misses]
  exact Nat.mod_eq_of_lt lookups

end Latest

end Cache

-- What a call adds to the keys asked for. An accepted registration starts anew.
def askedAfter (asked : List CacheKey) : Call × Reply → List CacheKey
  | (.register .., .registered (.ok _)) => []
  | (.path given, _) => given.key :: asked
  | _ => asked

-- The keys asked for since the last accepted registration, the latest in front.
def keysAsked (calls : List Call) (replies : List Reply) : List CacheKey := (calls.zip replies).foldl askedAfter []

namespace Router

-- A request that is answered from what is remembered.
def Recalls (router : Router) (given : Params) : Prop := ∃ answer, Event.recalled answer ∈ (router.path given).2.1

theorem scan_recalls_nothing (options : PathOptions) (given : Params) (routes : List Route) (answer : Option String) :
    Event.recalled answer ∉ (scan options given routes).1 := by
  induction routes with
  | nil => simp [scan]
  | cons route rest ih =>
      have asking : Event.recalled answer ≠ (ask options given route).1 := by
        unfold ask
        cases route.path given options <;> simp
      rw [scan]
      rcases asked : ask options given route with ⟨event, path⟩
      rw [asked] at asking
      cases path with
      | none => simpa [asking] using ih
      | some path => simpa using asking

theorem recalls_iff (router : Router) (given : Params) :
    router.Recalls given ↔
      ∃ cache, router.cache = some cache ∧ ∃ answer, cache.entries.lookup given.key = some answer := by
  have silent (answer : Option String) :
      Event.recalled answer ∉ Event.asked router.routes.length given.size ::
        (scan router.config.pathOptions given router.routes).1 := by
    simpa using scan_recalls_nothing router.config.pathOptions given router.routes answer
  rcases router.path_cases given with
    ⟨cache, answer, stored, found, outcome⟩ | ⟨cache, stored, missing, outcome⟩ | ⟨uncached, outcome⟩
  · rw [Recalls, outcome]
    exact ⟨fun _ => ⟨cache, stored, answer, found⟩, fun _ => ⟨answer, by simp⟩⟩
  · rw [Recalls, outcome]
    refine ⟨fun ⟨answer, member⟩ => absurd member (silent answer), fun ⟨other, same, answer, found⟩ => ?_⟩
    rw [stored] at same
    cases same
    rw [missing] at found
    cases found
  · rw [Recalls, outcome]
    refine ⟨fun ⟨answer, member⟩ => absurd member (silent answer), fun ⟨other, same, _⟩ => ?_⟩
    rw [uncached] at same
    cases same

-- The router after requests for some keys since its last registration.
structure Keeps (router : Router) (config : Config) (asked : List CacheKey) : Prop where
  settings : router.config = config
  room : router.cache.isSome = true ↔ 0 < config.cacheSize
  latest : ∀ cache, router.cache = some cache → cache.capacity = config.cacheSize ∧ cache.Latest asked

theorem keeps_fresh (router : Router) (config : Config) (settings : router.config = config)
    (fresh : router.cache = Cache.ofSize? config.cacheSize) : router.Keeps config [] := by
  rw [Cache.ofSize?] at fresh
  by_cases zero : config.cacheSize = 0
  · rw [if_pos zero] at fresh
    exact ⟨settings, by simp [fresh, zero], by simp [fresh]⟩
  · rw [if_neg zero] at fresh
    refine ⟨settings, by simp [fresh, Nat.pos_of_ne_zero zero], fun cache stored => ?_⟩
    cases fresh.symm.trans stored
    exact ⟨rfl, Cache.latest_nothing config.cacheSize⟩

-- Another cache in place of the one that there is.
theorem keeps_cache (router : Router) (config : Config) (asked later : List CacheKey) (keeps : router.Keeps config asked)
    (cache next : Cache) (stored : router.cache = some cache) (capacity : next.capacity = cache.capacity)
    (latest : cache.Latest asked → next.Latest later) : { router with cache := some next }.Keeps config later := by
  obtain ⟨sized, before⟩ := keeps.latest cache stored
  have room := keeps.room
  rw [stored] at room
  refine ⟨keeps.settings, room, fun other same => ?_⟩
  cases same
  exact ⟨capacity.trans sized, latest before⟩

theorem keeps_register (router : Router) (config : Config) (asked : List CacheKey) (keeps : router.Keeps config asked)
    (name : Option String) (declaration : Declaration) :
    (router.register name declaration).1.Keeps config
      (askedAfter asked (.register name declaration, .registered (router.register name declaration).2.2)) := by
  cases outcome : (router.register name declaration).2.2 with
  | error error =>
      rw [register_refused_unchanged router name declaration error outcome]
      exact keeps
  | ok route =>
      rw [register_accepted_appends router name declaration route outcome]
      refine keeps_fresh (router.append route) config keeps.settings ?_
      rw [← keeps.settings]
      rfl

theorem keeps_path (router : Router) (config : Config) (asked : List CacheKey) (keeps : router.Keeps config asked)
    (given : Params) : (router.path given).1.Keeps config (given.key :: asked) := by
  rcases router.path_cases given with
    ⟨cache, answer, stored, found, outcome⟩ | ⟨cache, stored, missing, outcome⟩ | ⟨uncached, outcome⟩
  · rw [outcome]
    exact keeps_cache router config asked _ keeps cache _ stored (cache.fetch_capacity given.key) fun latest =>
      Cache.latest_found cache asked latest given.key answer found
  · rw [outcome]
    exact keeps_cache router config asked _ keeps cache _ stored (cache.fetch_capacity given.key) fun latest =>
      Cache.latest_missed cache asked latest given.key _ missing
  · rw [outcome]
    refine ⟨keeps.settings, keeps.room, fun cache stored => ?_⟩
    rw [uncached] at stored
    cases stored

theorem keeps_step (router : Router) (config : Config) (asked : List CacheKey) (keeps : router.Keeps config asked)
    (call : Call) : (router.answer call).1.Keeps config (askedAfter asked (call, (router.answer call).2.2)) := by
  rcases call.kinds with ⟨name, declaration, same⟩ | ⟨given, same⟩ | reads
  · subst same
    exact keeps_register router config asked keeps name declaration
  · subst same
    exact keeps_path router config asked keeps given
  · have silent : askedAfter asked (call, (router.answer call).2.2) = asked := by
      cases call with
      | register name declaration => cases reads
      | path given => cases reads
      | _ => rfl
    rw [router.answer_reads call reads, silent]
    exact keeps

theorem keeps_run (router : Router) (config : Config) (asked : List CacheKey) (keeps : router.Keeps config asked)
    (calls : List Call) :
    (router.after calls).Keeps config ((calls.zip (router.replies calls)).foldl askedAfter asked) := by
  induction calls generalizing router asked with
  | nil => exact keeps
  | cons call rest ih => exact ih (router.answer call).1 _ (keeps_step router config asked keeps call)

theorem keeps_of_config (config : Config) (calls : List Call) :
    ((ofConfig config).after calls).Keeps config (keysAsked calls ((ofConfig config).replies calls)) :=
  keeps_run (ofConfig config) config [] (keeps_fresh (ofConfig config) config rfl rfl) calls

-- What is remembered and counted after requests for some keys since the last registration.
structure KeepsLatest (router : Router) (capacity : Nat) (asked : List CacheKey) : Prop where
  recalls : ∀ given, router.Recalls given ↔ Reused capacity given.key asked
  keys : router.cache.map (·.keys) = some ((recency asked).take capacity)
  stats : ∃ stats, router.stats = some stats ∧ stats.hits = reusedCount capacity asked ∧
    stats.hits + stats.misses = asked.length ∧ stats.entries = min capacity asked.toFinset.card ∧ stats.capacity = capacity
  restarts : ∀ name declaration route, (router.register name declaration).2.2 = .ok route →
    (router.register name declaration).1.stats = some ⟨0, 0, 0, capacity⟩

theorem keeps_latest (router : Router) (config : Config) (asked : List CacheKey) (keeps : router.Keeps config asked)
    (positive : 0 < config.cacheSize) : router.KeepsLatest config.cacheSize asked := by
  obtain ⟨cache, stored⟩ := Option.isSome_iff_exists.mp (keeps.room.mpr positive)
  obtain ⟨capacity, latest⟩ := keeps.latest cache stored
  rw [← capacity]
  refine ⟨fun given => ?_, ?_, ⟨cache.stats, ?_, latest.hits, latest.lookups, ?_, rfl⟩, ?_⟩
  · rw [recalls_iff, ← Cache.found_iff_reused cache asked latest]
    constructor
    · intro ⟨other, same, found⟩
      cases stored.symm.trans same
      exact found
    · intro found
      exact ⟨cache, stored, found⟩
  · rw [stored, Option.map_some, latest.keys]
  · rw [stats, stored, Option.map_some]
  · have count : cache.entries.length = cache.keys.length := by rw [Cache.keys, List.length_map]
    change cache.entries.length = _
    rw [count, latest.keys, List.length_take, recency_length]
  · intro name declaration route accepted
    have fresh : (router.append route).cache = some ⟨config.cacheSize, [], 0, 0⟩ := by
      rw [append, keeps.settings, Cache.ofSize?, if_neg (Nat.ne_of_gt positive)]
    rw [register_accepted_appends router name declaration route accepted, stats, fresh, capacity]
    rfl

end Router

-- A count never exceeds the number of requests since the last registration, so a word that counts them one by one is exact.
theorem counts_fit_words (config : Config) (calls : List Call) (stats : CacheStats)
    (counted : ((Router.ofConfig config).after calls).stats = some stats)
    (fewer : (keysAsked calls ((Router.ofConfig config).replies calls)).length < 2 ^ 64) :
    (UInt64.ofNat stats.hits).toNat = stats.hits ∧ (UInt64.ofNat stats.misses).toNat = stats.misses ∧
      (UInt64.ofNat stats.hits + UInt64.ofNat stats.misses).toNat = stats.hits + stats.misses := by
  have keeps := Router.keeps_of_config config calls
  obtain ⟨cache, stored, rfl⟩ := Option.map_eq_some_iff.mp counted
  exact Cache.counts_fit cache _ (keeps.latest cache stored).2 fewer

theorem cache_keeps_latest (config : Config) (calls : List Call) :
    (config.cacheSize = 0 → ((Router.ofConfig config).after calls).stats = none) ∧
    (0 < config.cacheSize → ((Router.ofConfig config).after calls).KeepsLatest config.cacheSize
      (keysAsked calls ((Router.ofConfig config).replies calls))) := by
  have keeps := Router.keeps_of_config config calls
  constructor
  · intro zero
    have empty : ((Router.ofConfig config).after calls).cache = none := by
      refine Option.not_isSome_iff_eq_none.mp fun present => ?_
      have positive := keeps.room.mp present
      omega
    rw [Router.stats, empty, Option.map_none]
  · exact Router.keeps_latest _ config _ keeps

-- With room for one key, the third request comes too late and the fourth does not.
def alternatingRequests : List Call :=
  [.register none { template := "a/:id" }, .path (.ofList [("id", some (.int 1))]), .path (.ofList [("id", some (.int 2))]),
    .path (.ofList [("id", some (.int 1))]), .path (.ofList [("id", some (.text "1"))])]

theorem cache_keeps_latest_of_alternating_requests :
    ((Router.ofConfig { cacheSize := 0 }).after alternatingRequests).stats = none ∧
    ((Router.ofConfig { cacheSize := 1 }).after alternatingRequests).KeepsLatest 1
      (keysAsked alternatingRequests ((Router.ofConfig { cacheSize := 1 }).replies alternatingRequests)) ∧
    keysAsked alternatingRequests ((Router.ofConfig { cacheSize := 1 }).replies alternatingRequests) =
      [[("id", "1")], [("id", "1")], [("id", "2")], [("id", "1")]] ∧
    ((Router.ofConfig { cacheSize := 1 }).after alternatingRequests).stats = some ⟨1, 3, 1, 1⟩ :=
  ⟨(cache_keeps_latest { cacheSize := 0 } alternatingRequests).1 rfl,
    (cache_keeps_latest { cacheSize := 1 } alternatingRequests).2 Nat.one_pos, rfl, rfl⟩

end PathTemplates
