import Failover.Config.Saved
import Failover.Proofs.Toml.Lines

/-!
A configuration that was saved is loaded again. The lines of the saved text build up tables, from
which every record is read as it was.
-/
namespace Failover
open Toml (Value Line Entries Draft)

namespace Toml

section Building

theorem alter_last {key : String} (f : Option Value → Option Value) {before : Entries}
    (hk : key ∉ before.map (·.1)) (v : Value) :
    Entries.alter key f (before ++ [(key, v)]) =
      (f (some v)).map fun v => before ++ [(key, v)] := by
  induction before with
  | nil => simp [Entries.alter]
  | cons x before ih =>
    simp only [List.map_cons, List.mem_cons, not_or] at hk
    simp [Entries.alter, Ne.symm hk.1, ih hk.2, Function.comp_def]

theorem alter_fresh {key : String} (f : Option Value → Option Value) {before : Entries}
    (hk : key ∉ before.map (·.1)) :
    Entries.alter key f before = (f none).map fun v => before ++ [(key, v)] := by
  induction before with
  | nil => simp [Entries.alter]
  | cons x before ih =>
    simp only [List.map_cons, List.mem_cons, not_or] at hk
    simp [Entries.alter, Ne.symm hk.1, ih hk.2, Function.comp_def]

def Leads (path : List String) (form : Entries → Entries) : Prop :=
  ∀ (f : Origin → Entries → Option Entries) (origin : Origin) (sub : Entries),
    Entries.within false f path origin (form sub) = (f .header sub).map form

def ending (before : Entries) (name : String) (sub : Entries) : Entries :=
  before ++ [(name, .table .header sub)]

theorem leads_ending {before : Entries} {name : String} (hn : name ∉ before.map (·.1)) :
    Leads [name] (ending before name) := by
  intro f origin sub
  simp only [Entries.within, ending]
  rw [alter_last _ hn]
  simp only [reduceCtorEq, Bool.false_eq_true, false_and, or_false, if_false, Option.map_map]
  rfl

theorem leads_item {before sub : Entries} {name key : String} (items : List Entries)
    (hn : name ∉ before.map (·.1)) (hk : key ∉ sub.map (·.1)) :
    Leads [name, key] fun item =>
      ending before name (sub ++ [(key, .tables (items ++ [item]))]) := by
  intro f origin item
  simp only [Entries.within, ending]
  rw [alter_last _ hn]
  simp only [reduceCtorEq, Bool.false_eq_true, false_and, or_false, if_false]
  rw [alter_last _ hk]
  simp [Function.comp_def]

def pairs (es : Entries) : List Line := es.map fun x => .pair [x.1] x.2

theorem add_pair {path : List String} {form : Entries → Entries} (hl : Leads path form)
    {sub : Entries} {key : String} (hk : key ∉ sub.map (·.1)) (v : Value) :
    Draft.add ⟨form sub, path⟩ (.pair [key] v) = some ⟨form (sub ++ [(key, v)]), path⟩ := by
  have hassign : Entries.assign [] key v .header sub = some (sub ++ [(key, v)]) := by
    simp only [Entries.assign, Entries.within, ne_eq, not_true_eq_false, false_and, if_false]
    rw [alter_fresh _ hk]
    rfl
  have hwithin := hl (Entries.assign [] key v) .header sub
  rw [hassign] at hwithin
  simp [Draft.add, splitKey, hwithin]

theorem add_pairs {path : List String} {form : Entries → Entries} (hl : Leads path form)
    (sub : Entries) {es : Entries} (hn : ((sub ++ es).map (·.1)).Nodup) :
    (pairs es).foldlM Draft.add ⟨form sub, path⟩ = some ⟨form (sub ++ es), path⟩ := by
  induction es generalizing sub with
  | nil => simp [pairs]
  | cons x es ih =>
    have hsplit : sub ++ x :: es = (sub ++ [x]) ++ es := List.append_cons sub x es
    have hk : x.1 ∉ sub.map (·.1) := by
      rw [List.map_append, List.nodup_append] at hn
      exact fun hx => hn.2.2 x.1 hx x.1 (by simp) rfl
    rw [hsplit] at hn ⊢
    rw [pairs, List.map_cons, List.foldlM_cons, add_pair hl hk]
    exact ih _ hn

theorem add_table (d : Draft) (name : String) (es : Entries) (hn : name ∉ d.root.map (·.1))
    (he : (es.map (·.1)).Nodup) :
    (.table [name] :: pairs es).foldlM Draft.add d = some ⟨ending d.root name es, [name]⟩ := by
  have hopen : openTable name .header d.root = some (ending d.root name []) := by
    rw [openTable, alter_fresh _ hn]
    rfl
  have hadd : d.add (.table [name]) = some ⟨ending d.root name [], [name]⟩ := by
    simp [Draft.add, splitKey, Entries.within, hopen]
  rw [List.foldlM_cons, hadd]
  exact add_pairs (leads_ending hn) [] he

def itemsEntry (key : String) (items : List Entries) : Entries :=
  if items.isEmpty then [] else [(key, .tables items)]

theorem itemsEntry_append (key : String) (items : List Entries) (item : Entries) :
    itemsEntry key (items ++ [item]) = [(key, .tables (items ++ [item]))] := by
  simp [itemsEntry]

theorem openItem_itemsEntry {key : String} {sub : Entries} (hk : key ∉ sub.map (·.1))
    (items : List Entries) (origin : Origin) :
    openItem key origin (sub ++ itemsEntry key items) =
      some (sub ++ itemsEntry key (items ++ [[]])) := by
  rw [itemsEntry_append, openItem]
  cases items with
  | nil =>
    simp only [itemsEntry, List.isEmpty_nil, if_true, List.append_nil]
    rw [alter_fresh _ hk]
    rfl
  | cons x xs =>
    simp only [itemsEntry, List.isEmpty_cons, Bool.false_eq_true, if_false]
    rw [alter_last _ hk]
    rfl

theorem add_item {before sub : Entries} {name key : String} (hn : name ∉ before.map (·.1))
    (hk : key ∉ sub.map (·.1)) (items : List Entries) (path : List String) {es : Entries}
    (he : (es.map (·.1)).Nodup) :
    (.tables [name, key] :: pairs es).foldlM Draft.add
        ⟨ending before name (sub ++ itemsEntry key items), path⟩ =
      some ⟨ending before name (sub ++ itemsEntry key (items ++ [es])), [name, key]⟩ := by
  have hadd : Draft.add ⟨ending before name (sub ++ itemsEntry key items), path⟩
      (.tables [name, key]) =
        some ⟨ending before name (sub ++ itemsEntry key (items ++ [[]])), [name, key]⟩ := by
    have hwithin := leads_ending hn (openItem key) .header (sub ++ itemsEntry key items)
    rw [openItem_itemsEntry hk] at hwithin
    simp [Draft.add, splitKey, hwithin]
  rw [List.foldlM_cons, hadd, itemsEntry_append, itemsEntry_append]
  exact add_pairs (leads_item items hn hk) [] he

theorem add_items {before sub : Entries} {name key : String} (hn : name ∉ before.map (·.1))
    (hk : key ∉ sub.map (·.1)) {more : List Entries} (he : ∀ es ∈ more, (es.map (·.1)).Nodup)
    (items : List Entries) (path : List String) : ∃ path',
    (more.flatMap fun es => .tables [name, key] :: pairs es).foldlM Draft.add
        ⟨ending before name (sub ++ itemsEntry key items), path⟩ =
      some ⟨ending before name (sub ++ itemsEntry key (items ++ more)), path'⟩ := by
  induction more generalizing items path with
  | nil => exact ⟨path, by simp⟩
  | cons es more ih =>
    obtain ⟨path', hrest⟩ := ih (fun x hx => he x (List.mem_cons_of_mem _ hx)) (items ++ [es])
      [name, key]
    refine ⟨path', ?_⟩
    rw [List.flatMap_cons, List.foldlM_append, add_item hn hk items path (he es List.mem_cons_self)]
    simpa using hrest

end Building

section Plain

structure PlainEntries (es : Entries) : Prop where
  keys : ∀ k ∈ es.map (·.1), Bare k
  values : ∀ v ∈ es.map (·.2), v.Plain

theorem Bare.plainKey {k : String} (hk : Bare k) : PlainKey [k] where
  ne_nil := List.cons_ne_nil _ _
  length_le := by simp [maxDepth]
  bare := by simpa using hk

theorem PlainEntries.pairs {es : Entries} (he : PlainEntries es) :
    ∀ line ∈ pairs es, line.Plain := by
  intro line hl
  obtain ⟨x, hx, rfl⟩ := List.mem_map.1 hl
  exact ⟨(he.keys x.1 (List.mem_map_of_mem hx)).plainKey, he.values x.2 (List.mem_map_of_mem hx)⟩

theorem PlainEntries.table {es : Entries} (he : PlainEntries es) (name : String)
    (hn : Bare name) : ∀ line ∈ Line.table [name] :: Toml.pairs es, line.Plain :=
  List.forall_mem_cons.2 ⟨hn.plainKey, he.pairs⟩

end Plain

end Toml

namespace Config

def hostEntries (h : Host) : Entries :=
  [("host", .string h.endpoint.name), ("port", number h.endpoint.port.toNat),
    ("role", .string h.role.text)]

def optionEntries (o : Options) : Entries :=
  [("auto_reconnect", .boolean o.autoReconnect),
    ("initial_timeout_sec", number o.initialTimeoutSec.toNat),
    ("max_reconnects", number o.maxReconnects.toNat),
    ("seconds_before_retry_master", number o.secondsBeforeRetryMaster.toNat),
    ("queries_before_retry_master", number o.queriesBeforeRetryMaster.toNat),
    ("retries_all_down", number o.retriesAllDown.toNat),
    ("valid_connection_timeout_sec", number o.validConnectionTimeoutSec.toNat),
    ("blacklist_timeout_sec", number o.blacklistTimeoutSec.toNat)]

def hostsValue (hosts : List Host) : Value :=
  if hosts.isEmpty then .array [] else .tables (hosts.map hostEntries)

def topologyEntries (c : Config) : Entries :=
  [("mode", .string c.mode.text), ("connect_timeout_ms", number c.connectTimeoutMs.toNat)]

def loggingEntries (c : Config) : Entries :=
  [("level", .string c.logLevel), ("format", .string c.logFormat)]

def entries (c : Config) : Entries :=
  [("topology", .table .header (topologyEntries c ++ [("hosts", hostsValue c.hosts)])),
    ("failover", .table .header (optionEntries c.failover)),
    ("logging", .table .header (loggingEntries c))]

def hostsLines (hosts : List Host) : List Line :=
  if hosts.isEmpty then [pair "hosts" (.array [])] else hosts.flatMap hostLines

theorem add_hosts (c : Config) : ∃ path,
    (hostsLines c.hosts).foldlM Draft.add
        ⟨Toml.ending [] "topology" (topologyEntries c), ["topology"]⟩ =
      some ⟨Toml.ending [] "topology" (topologyEntries c ++ [("hosts", hostsValue c.hosts)]),
        path⟩ := by
  have hname : "topology" ∉ ([] : Entries).map (·.1) := by simp
  have hkey : "hosts" ∉ (topologyEntries c).map (·.1) := by simp [topologyEntries]
  by_cases hnone : c.hosts.isEmpty
  · refine ⟨["topology"], ?_⟩
    have hadd := Toml.add_pair (Toml.leads_ending hname) hkey (.array [])
    simpa [hostsLines, hnone, pair, hostsValue] using hadd
  · have hlines : c.hosts.flatMap hostLines = (c.hosts.map hostEntries).flatMap fun es =>
        .tables ["topology", "hosts"] :: Toml.pairs es := by
      rw [List.flatMap_map]
      rfl
    have hnodup : ∀ es ∈ c.hosts.map hostEntries, (es.map (·.1)).Nodup := by
      intro es he
      obtain ⟨h, -, rfl⟩ := List.mem_map.1 he
      simp [hostEntries]
    obtain ⟨path, hadd⟩ := Toml.add_items hname hkey hnodup [] ["topology"]
    refine ⟨path, ?_⟩
    rw [hostsLines, if_neg hnone, hlines]
    simpa [Toml.itemsEntry, hostsValue, hnone] using hadd

theorem lines_tables (c : Config) :
    c.lines = (.table ["topology"] :: Toml.pairs (topologyEntries c)) ++ hostsLines c.hosts ++
      (.table ["failover"] :: Toml.pairs (optionEntries c.failover)) ++
      (.table ["logging"] :: Toml.pairs (loggingEntries c)) :=
  rfl

/-- The lines of a configuration build up its tables. -/
theorem build_lines (c : Config) : Toml.build c.lines = some c.entries := by
  have htopology := Toml.add_table {} "topology" (topologyEntries c) (by simp)
    (by simp [topologyEntries])
  obtain ⟨path, hhosts⟩ := add_hosts c
  have hfailover := Toml.add_table
    ⟨Toml.ending [] "topology" (topologyEntries c ++ [("hosts", hostsValue c.hosts)]), path⟩
    "failover" (optionEntries c.failover) (by simp [Toml.ending]) (by simp [optionEntries])
  have hlogging := Toml.add_table ⟨Toml.ending (Toml.ending [] "topology"
    (topologyEntries c ++ [("hosts", hostsValue c.hosts)])) "failover" (optionEntries c.failover),
      ["failover"]⟩ "logging" (loggingEntries c) (by simp [Toml.ending]) (by simp [loggingEntries])
  rw [Toml.build, lines_tables, List.foldlM_append, List.foldlM_append, List.foldlM_append,
    htopology]
  simp only [Option.bind_eq_bind, Option.bind_some, hhosts, hfailover, hlogging]
  rfl

@[simp] theorem required_some {α : Type} (read : Value → Option α) (v : Value) :
    required read (some v) = read v := by
  rw [required]

@[simp] theorem optional_some {α : Type} (read : Value → Option α) (fallback : α) (v : Value) :
    optional read fallback (some v) = read v := by
  rw [optional]

@[simp] theorem readString_string (s : String) : readString (.string s) = some s := rfl

@[simp] theorem readBool_boolean (b : Bool) : readBool (.boolean b) = some b := rfl

theorem readBelow_number {bound n : Nat} (h : n < bound) : readBelow bound (number n) = some n := by
  simp [readBelow, number, h]

@[simp] theorem readPort_number (n : UInt16) : readPort (number n.toNat) = some n := by
  rw [readPort, readBelow_number n.toNat_lt_size]
  simp

@[simp] theorem readWord32_number (n : UInt32) : readWord32 (number n.toNat) = some n := by
  rw [readWord32, readBelow_number n.toNat_lt_size]
  simp

@[simp] theorem readWord64_number (n : UInt64) : readWord64 (number n.toNat) = some n := by
  rw [readWord64, readBelow_number n.toNat_lt_size]
  simp

@[simp] theorem readRole_text (r : Role) : readRole (.string r.text) = some r := by
  cases r <;> rfl

@[simp] theorem readMode_text (m : Mode) : readMode (.string m.text) = some m := by
  cases m <;> rfl

theorem fields_table (origin : Toml.Origin) (es : Entries) (hn : (es.map (·.1)).Nodup) :
    fields (es.map (·.1)) (.table origin es) = some (es.map fun x => some x.2) := by
  have hlookup (x : String × Value) (hx : x ∈ es) : es.lookup x.1 = some x.2 := by
    induction es with
    | nil => cases hx
    | cons y es ih =>
      obtain ⟨hy, hn⟩ := List.nodup_cons.1 hn
      rcases List.mem_cons.1 hx with rfl | hx
      · exact List.lookup_cons_self
      · have hne : x.1 ≠ y.1 := by
          intro he
          exact hy (List.mem_map.2 ⟨x, hx, he⟩)
        rw [List.lookup_cons, beq_false_of_ne hne]
        exact ih hn hx
  rw [fields, List.map_map]
  exact congrArg some (List.map_congr_left hlookup)

theorem readHost_fields {v name port role : Value} {n : String} {p : UInt16} {r : Role}
    (hv : fields ["host", "port", "role"] v = some [some name, some port, some role])
    (hn : readString name = some n) (hp : readPort port = some p) (hr : readRole role = some r) :
    readHost v = some ⟨⟨n, p⟩, r⟩ := by
  simp [readHost, hv, hn, hp, hr]

theorem readHost_entries (h : Host) : readHost (.table .header (hostEntries h)) = some h :=
  readHost_fields (fields_table .header _ (by simp [hostEntries])) (readString_string _)
    (readPort_number _) (readRole_text _)

theorem readHosts_value (hosts : List Host) : readHosts (hostsValue hosts) = some hosts := by
  have hall : (hosts.map hostEntries).mapM (fun t => readHost (.table .header t)) = some hosts := by
    induction hosts with
    | nil => rfl
    | cons h hosts ih => simp [readHost_entries, ih]
  cases hosts with
  | nil => rfl
  | cons h hosts => exact hall

theorem readOptions_fields {o : Options}
    {v auto initial reconnects seconds queries retries idle blacklist : Value}
    (hv : fields optionNames v = some [some auto, some initial, some reconnects, some seconds,
      some queries, some retries, some idle, some blacklist])
    (hauto : readBool auto = some o.autoReconnect)
    (hinitial : readWord64 initial = some o.initialTimeoutSec)
    (hreconnects : readWord32 reconnects = some o.maxReconnects)
    (hseconds : readWord64 seconds = some o.secondsBeforeRetryMaster)
    (hqueries : readWord32 queries = some o.queriesBeforeRetryMaster)
    (hretries : readWord32 retries = some o.retriesAllDown)
    (hidle : readWord64 idle = some o.validConnectionTimeoutSec)
    (hblacklist : readWord64 blacklist = some o.blacklistTimeoutSec) :
    readOptions v = some o := by
  simp [readOptions, hv, hauto, hinitial, hreconnects, hseconds, hqueries, hretries, hidle,
    hblacklist]

theorem readOptions_entries (o : Options) :
    readOptions (.table .header (optionEntries o)) = some o :=
  readOptions_fields (fields_table .header _ (by simp [optionEntries])) (readBool_boolean _)
    (readWord64_number _) (readWord32_number _) (readWord64_number _) (readWord32_number _)
    (readWord32_number _) (readWord64_number _) (readWord64_number _)

theorem readTopology_fields {v mode timeout hosts : Value} {m : Mode} {t : UInt64} {hs : List Host}
    (hv : fields ["mode", "connect_timeout_ms", "hosts"] v =
      some [some mode, some timeout, some hosts])
    (hm : readMode mode = some m) (ht : readWord64 timeout = some t)
    (hh : readHosts hosts = some hs) : readTopology v = some (m, t, hs) := by
  simp [readTopology, hv, hm, ht, hh]

theorem readTopology_entries (c : Config) :
    readTopology (.table .header (topologyEntries c ++ [("hosts", hostsValue c.hosts)])) =
      some (c.mode, c.connectTimeoutMs, c.hosts) :=
  readTopology_fields (fields_table .header _ (by simp [topologyEntries])) (readMode_text _)
    (readWord64_number _) (readHosts_value _)

theorem readLogging_entries (c : Config) :
    readLogging (.table .header (loggingEntries c)) = some (c.logLevel, c.logFormat) := by
  have hfields := fields_table .header (loggingEntries c) (by simp [loggingEntries])
  simp only [loggingEntries, List.map_cons, List.map_nil] at hfields
  simp [readLogging, loggingEntries, hfields]

/-- Every record is read from its table as it was. -/
theorem ofEntries?_entries (c : Config) : ofEntries? c.entries = some c := by
  have htopology : c.entries.lookup "topology" =
      some (.table .header (topologyEntries c ++ [("hosts", hostsValue c.hosts)])) := rfl
  have hfailover : c.entries.lookup "failover" =
      some (.table .header (optionEntries c.failover)) := rfl
  have hlogging : c.entries.lookup "logging" = some (.table .header (loggingEntries c)) := rfl
  simp [ofEntries?, htopology, hfailover, hlogging, readTopology_entries, readOptions_entries,
    readLogging_entries]

theorem plain_number {n : Nat} (hn : (n : Int) ≤ Int64.maxValue.toInt) : (number n).Plain :=
  ⟨Int.natCast_nonneg n, (Toml.inRange_natCast n).2 hn⟩

theorem plain_word32 (n : UInt32) : (number n.toNat).Plain := by
  have hn := n.toNat_lt
  have hmax : 4294967296 ≤ Int64.maxValue.toInt := by decide
  exact plain_number (by omega)

theorem plain_port (n : UInt16) : (number n.toNat).Plain := by
  have hn := n.toNat_lt
  have hmax : 65536 ≤ Int64.maxValue.toInt := by decide
  exact plain_number (by omega)

theorem plain_hostEntries (h : Host) : Toml.PlainEntries (hostEntries h) := by
  constructor
  · change ∀ k ∈ ["host", "port", "role"], Toml.Bare k
    decide
  · simp only [hostEntries, List.map_cons, List.map_nil, List.forall_mem_cons]
    exact ⟨trivial, plain_port _, trivial, by simp⟩

theorem plain_topologyEntries {c : Config} (hc : c.connectTimeoutMs.toNat ≤ Int64.maxValue.toInt) :
    Toml.PlainEntries (topologyEntries c) := by
  constructor
  · change ∀ k ∈ ["mode", "connect_timeout_ms"], Toml.Bare k
    decide
  · simp only [topologyEntries, List.map_cons, List.map_nil, List.forall_mem_cons]
    exact ⟨trivial, plain_number hc, by simp⟩

theorem plain_optionEntries {o : Options} (hi : o.initialTimeoutSec.toNat ≤ Int64.maxValue.toInt)
    (hs : o.secondsBeforeRetryMaster.toNat ≤ Int64.maxValue.toInt)
    (hv : o.validConnectionTimeoutSec.toNat ≤ Int64.maxValue.toInt)
    (hb : o.blacklistTimeoutSec.toNat ≤ Int64.maxValue.toInt) :
    Toml.PlainEntries (optionEntries o) := by
  constructor
  · change ∀ k ∈ optionNames, Toml.Bare k
    decide
  · simp only [optionEntries, List.map_cons, List.map_nil, List.forall_mem_cons]
    exact ⟨trivial, plain_number hi, plain_word32 _, plain_number hs, plain_word32 _,
      plain_word32 _, plain_number hv, plain_number hb, by simp⟩

theorem plain_loggingEntries (c : Config) : Toml.PlainEntries (loggingEntries c) := by
  constructor
  · change ∀ k ∈ ["level", "format"], Toml.Bare k
    decide
  · simp only [loggingEntries, List.map_cons, List.map_nil, List.forall_mem_cons]
    exact ⟨trivial, trivial, by simp⟩

theorem plain_hostsLines (hosts : List Host) : ∀ line ∈ hostsLines hosts, line.Plain := by
  by_cases hnone : hosts.isEmpty
  · have hkey : Toml.Bare "hosts" := by decide
    rw [hostsLines, if_pos hnone]
    exact List.forall_mem_singleton.2 ⟨hkey.plainKey, rfl⟩
  · have hpath : Toml.PlainKey ["topology", "hosts"] := ⟨by simp, by decide, by decide⟩
    rw [hostsLines, if_neg hnone]
    simp only [List.forall_mem_flatMap]
    intro h _
    exact List.forall_mem_cons.2 ⟨hpath, (plain_hostEntries h).pairs⟩

theorem plain_lines {c : Config} (h : ∀ n ∈ c.longNumbers, n.toNat ≤ Int64.maxValue.toInt) :
    ∀ line ∈ c.lines, line.Plain := by
  simp only [longNumbers, List.forall_mem_cons] at h
  obtain ⟨hconnect, hinitial, hseconds, hidle, hblacklist, -⟩ := h
  have htopology := (plain_topologyEntries hconnect).table "topology" (by decide)
  have hfailover := (plain_optionEntries hinitial hseconds hidle hblacklist).table
    "failover" (by decide)
  have hlogging := (plain_loggingEntries c).table "logging" (by decide)
  rw [lines_tables]
  simp only [List.forall_mem_append]
  exact ⟨⟨⟨htopology, plain_hostsLines c.hosts⟩, hfailover⟩, hlogging⟩

theorem save?_eq_none (c : Config) :
    c.save? = none ↔ ∃ n ∈ c.longNumbers, Int64.maxValue.toInt < n.toNat := by
  simp [save?, Toml.inRange_natCast]

theorem save?_eq_some {c : Config} {text : String} (h : c.save? = some text) :
    (∀ n ∈ c.longNumbers, n.toNat ≤ Int64.maxValue.toInt) ∧ Toml.write c.lines = text := by
  simpa only [save?, Option.ite_none_right_eq_some, List.all_eq_true, Toml.inRange_natCast,
    Option.some.injEq] using h

/-- A configuration is saved unless one of its numbers needs the 64th bit. What is saved is loaded
again as it was, or refused for the rule that it breaks. -/
theorem load_saved (c : Config) :
    (c.save? = none ↔ ∃ n ∈ [c.connectTimeoutMs, c.failover.initialTimeoutSec,
      c.failover.secondsBeforeRetryMaster, c.failover.validConnectionTimeoutSec,
      c.failover.blacklistTimeoutSec], Int64.maxValue.toInt < n.toNat) ∧
    ∀ text, c.save? = some text → load text = c.validate.mapError .invalid := by
  refine ⟨save?_eq_none c, fun text hsave => ?_⟩
  obtain ⟨hnumbers, rfl⟩ := save?_eq_some hsave
  have hparse : Toml.parse? (Toml.write c.lines) = some c.entries := by
    rw [Toml.parse?, Toml.scan_write (plain_lines hnumbers)]
    exact build_lines c
  simp [load, hparse, ofEntries?_entries]

def awkward : Config where
  mode := .aurora
  connectTimeoutMs := 9223372036854775807
  hosts := [⟨⟨"it's \"a\"\n", 1⟩, .unset⟩, ⟨⟨"\x01\\", 65535⟩, .replica⟩]

theorem load_saved_awkward :
    ∃ text, awkward.save? = some text ∧ load text = .ok awkward := by
  have hsave : awkward.save? = some (Toml.write awkward.lines) := if_pos (by decide)
  have hvalid : awkward.validate = .ok awkward := by
    have hflaw : awkward.flaw? = none := by decide
    rw [validate, hflaw]
  have hload := (load_saved awkward).2 _ hsave
  rw [hvalid] at hload
  exact ⟨_, hsave, hload⟩

end Config
end Failover
