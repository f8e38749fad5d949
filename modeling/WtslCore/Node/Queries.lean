/-
# The operations that ask the driver

The callbacks of the `POST` operations that run a command of the driver and
read its output: `sscanf` takes the status from between the first brackets of
a line, and numbers and words from where they are expected. Where the status
is not `SUCC`, most of them return NULL; the one that disconnects a user says
so in its answer, and the traces only log it. None of them looks at how the
command ended.

The arrays for the status and for words are short, and what does not fit them
has no outcome, nor has the output of a command that did not start.

Key definitions: `scanBracket`, `OpEnv.statusLine`, `Op.doDisconnect`,
`Op.getNodeTraffic`, `Op.getSecalg`, `TraceFeature`, `Op.getTraceinfo`,
`traceMentions`.
Key theorem: `TraceFeature.item_mentions`.
-/
import WtslCore.Node.Calls
import WtslCore.Node.Operations

namespace WtslCore

open Noted

/-! ### What is scanned -/

/-- `%*[^[][%[^]]` of `sscanf`: the word in the first brackets, which something
is before, and what follows the word. -/
def scanBracket (s : CStr) : Option (CStr × CStr) :=
  let t := s.dropWhile fun c => c != '['
  let word := t.tail.takeWhile fun c => c != ']'
  if t.length = s.length ∨ word = [] then none
  else some (word, t.tail.dropWhile fun c => c != ']')

/-- `%llu` of `sscanf`: the value, and what follows it. -/
def scanU64 (s : CStr) : Option (ℤ × CStr) :=
  let digits (sign : ℤ) (u : CStr) : Option (ℤ × CStr) :=
    let v : ℤ := digitsVal (u.takeWhile Char.isDigit)
    if u.takeWhile Char.isDigit = [] then none
    else some (if 18446744073709551616 ≤ v then 18446744073709551615
      else (sign * v) % 18446744073709551616, u.dropWhile Char.isDigit)
  match s.dropWhile isspace with
  | '-' :: u => digits (-1) u
  | '+' :: u => digits 1 u
  | u => digits 1 u

/-- `RX bytes:%llu` of a line, behind blanks. -/
def scanBytes (direction : String) (s : CStr) : Option (ℤ × CStr) := do
  let s ← scanLit direction (s.dropWhile isspace)
  let s ← scanLit "bytes:" (s.dropWhile isspace)
  scanU64 s

/-- The number of bytes sent, behind two words. -/
def scanSent (s : CStr) : Option (ℤ × CStr) := do
  let (_, s) ← scanWord s
  let (_, s) ← scanWord s
  scanBytes "TX" s

/-- The variables of `wtsl_core_get_node_traffic`. -/
structure Traffic where
  buffer : CStr
  rxBytes : ℤ
  txBytes : ℤ

/-- The loop over the lines of `ifconfig`, up to the first with both numbers. -/
def scanTraffic : List CStr → Traffic → Traffic
  | [], st => st
  | line :: lines, st =>
    match scanBytes "RX" line with
    | none => scanTraffic lines { st with buffer := line }
    | some (rx, s) =>
      match scanSent s with
      | none => scanTraffic lines { st with buffer := line, rxBytes := rx }
      | some (tx, _) => ⟨line, rx, tx⟩

/-- The numbers that `%d %d ...` of `sscanf` assigns, `n` at most. -/
def scanInts : ℕ → CStr → List ℤ
  | 0, _ => []
  | n + 1, s =>
    match strtol s with
    | none => []
    | some (v, s) => v :: scanInts n s

/-! ### The first line of a command -/

/-- The status in the first line of an output, in `char status[8]`, and what
follows it. -/
def statusIn (output : CStr) : Option (CStr × CStr) :=
  match scanBracket ((fgetsLines 128 output).head?.getD []) with
  | none => some ([], [])
  | some (status, s) => if status.length < 8 then some (status, s) else none

/-- The status of a command, and what follows it in its first line. -/
def OpEnv.statusLine (env : OpEnv) (cmd : CStr) : Op (CStr × CStr) := do
  let output ← env.output cmd
  ofOption (statusIn output)

/-- `"SUCC"`. -/
def succText : CStr := "SUCC".toList

/-- `strcmp(status, "SUCC") != 0`. -/
def succeeded (status : CStr) (k : Op Ptr) : Op Ptr :=
  if status = succText then k else reject (.answer status)

/-- The first status in an output, in `char status[8]`. -/
def firstStatus (output : CStr) : Option CStr :=
  match (fgetsLines 128 output).findSome? scanBracket with
  | none => some []
  | some (status, _) => if status.length < 8 then some status else none

/-- The word in brackets, in `char algorithm[20]`. -/
def scanAlgorithm (s : CStr) : Option CStr :=
  match scanBracket s with
  | none => some []
  | some (algorithm, _) => if algorithm.length < 20 then some algorithm else none

/-- A command of the driver in `char cmd[n]`. -/
def driverCmd (n : ℕ) (kind : String) (words : List CStr) : CStr :=
  (iwpriv kind ([' '].intercalate words)).take (n - 1)

/-- The command of `wtsl_core_do_disconnect`. -/
def kickUserCmd (mac : CStr) : CStr := driverCmd 64 "cfg" ["kick_user".toList, mac]

/-- The command of `wtsl_core_get_secalg`. -/
def getSecAlgCmd (mac : CStr) : CStr := driverCmd 64 "cfg" ["get_sec_alg".toList, mac]

/-- The command of `wtsl_core_set_adaptivemcs`. -/
def schResTypeMcsCmd (root : Json) (userMac resType dir : CStr) : CStr :=
  driverCmd 128 "alg"
    ["sch_res_type_mcs".toList, userMac, resType, dir, intText (intField root "mcs" 0).toInt]

/-- The command of `wtsl_core_do_clearschmcs`. -/
def clearSchMcsCmd (userMac : CStr) : CStr := driverCmd 64 "alg" ["clear_sch_mcs".toList, userMac]

/-- The command of `wtsl_core_set_mcsbound`. -/
def setMcsBoundCmd (root : Json) (userMac : CStr) : CStr :=
  driverCmd 64 "alg" ["set_mcs_bound".toList, userMac, intText (intField root "low_bound" 0).toInt,
    intText (intField root "up_bound" 0).toInt]

/-- The command of `wtsl_core_get_adaptivemcsinfo`. -/
def getSchResTypeMcsCmd (userMac resType dir : CStr) : CStr :=
  driverCmd 128 "alg" ["get_sch_res_type_mcs".toList, userMac, resType, dir]

/-- The command of `wtsl_core_get_mcsboundinfo`. -/
def getMcsBoundCmd (userMac : CStr) : CStr := driverCmd 64 "alg" ["get_mcs_bound".toList, userMac]

/-- The command of the traces. -/
def traceCmd (feature userMac : CStr) : CStr :=
  driverCmd 64 "cfg" ["trace".toList, feature, userMac]

/-- The command that prints the time. -/
def dateCmd : CStr := "date +%s".toList

/-- The command that `wtsl_core_get_node_traffic` reads the numbers from. -/
def ifconfigCmd (interface : CStr) : CStr := ("ifconfig ".toList ++ interface).take 63

/-! ### Traces -/

/-- What is traced for a label: numbers, or a word in `char word[16]`. -/
inductive TraceValue
  | numbers (vs : List ℤ)
  | word (w : CStr)

/-- How a feature is traced. -/
structure TraceFeature where
  name : String
  /-- The size of `status`. -/
  statusSize : ℕ
  /-- A line is told by the label in it, not by its numbers. -/
  byLabel : Bool
  msec : Bool
  /-- The columns of the rows; without any, the rows are members of the answer. -/
  protocols : Option (List String)
  rows : List (String × TraceValue)

/-- Rows of as many zeros as there are columns. -/
def zeroRows (labels protocols : List String) : List (String × TraceValue) :=
  labels.map fun label => (label, .numbers (List.replicate protocols.length 0))

/-- The features, in the order of the comparisons. -/
def traceFeatures : List TraceFeature :=
  let table (name : String) (statusSize : ℕ) (byLabel msec : Bool) (protocols labels : List String) :=
    TraceFeature.mk name statusSize byLabel msec (some protocols) (zeroRows labels protocols)
  [table "vip" 8 false false ["DHCP", "ARP_REQ", "ARP_RSP", "ICMP"]
      ["host_tx_h2h", "host_tx_h2d", "dmac_tx_h2d", "dmac_tx_sch_fill_tb", "host_rx_d2h",
        "host_rx_defrag_compl", "host_rx_deliver"],
    ⟨"throughput", 16, false, false, none,
      ["host_tx_h2h", "host_tx_h2d", "host_rx_d2h", "host_rx_defrag_compl", "host_rx_deliver"].map
        fun label => (label, .word [])⟩,
    table "delay" 16 false false
      ["skb1", "skb2", "skb3", "skb4", "skb5", "skb6", "skb7", "skb8", "skb9", "skb10"]
      ["TX_HMAC_FC_Q", "TX_DMAC_LC_Q", "RX_HMAC_DEFRAG", "RX_HMAC_REORDER"],
    table "drop" 8 false false ["drop_cnt", "rough_total", "ratio", "vip_drop_cnt"]
      ["host_tx_fc_drop", "host_tx_retx_drop", "host_tx_a2h_drop", "dmac_tx_distribute_fail",
        "dmac_rx_parse_mac_hdr", "dmac_rx_netbuf_alloc_fail", "dmac_rx_gsec_fail",
        "dmac_rx_gsec_err", "host_rx_defrag_udpate", "host_rx_defrag_flush",
        "host_rx_reorder_lt_submit", "host_rx_reorder_dup"],
    table "mcs" 8 false true ["total", "0-9", "10-16", "17-22", "23-27", "28-31"]
      ["first_trans", "retrans"],
    table "user_access" 8 true false ["fail_0", "fail_1"]
      ["host_tx_XrcSetup", "dmac_msg34_tx_complete", "host_sync_phyid", "host_tx_SecCtxReq",
        "host_sync_sec_key", "host_tx_AssocSetup", "host_tx_XrcReconf", "host_retx_lce1",
        "dmac_lcl_tx_cnt", "host_usp_fail", "host_sec_fail", "dmac_decrypt_fail"]]

/-- `sscanf` of a line for a label: what is traced then, and whether the line
was for the label. Numbers up to the first mismatch are assigned. -/
def TraceValue.scan (byLabel : Bool) (label : String) (line : CStr) :
    TraceValue → Option (TraceValue × Bool)
  | .numbers vs =>
    let scanned := ((scanLit label line).map (scanInts vs.length)).getD []
    if byLabel && !occurs label line then some (.numbers vs, false)
    else some (.numbers (scanned ++ vs.drop scanned.length), byLabel || scanned.length == vs.length)
  | .word w =>
    match (scanLit label line).bind scanWord with
    | none => some (.word w, false)
    | some (w, _) => if w.length < 16 then some (.word w, true) else none

/-- A line is compared with the labels up to the one it is for; the last one
ends the loop. -/
def scanRows (byLabel : Bool) (line : CStr) :
    List (String × TraceValue) → Option (List (String × TraceValue) × Bool)
  | [] => some ([], false)
  | (label, value) :: rows =>
    match value.scan byLabel label line with
    | none => none
    | some (value, true) => some ((label, value) :: rows, rows.isEmpty)
    | some (value, false) => (scanRows byLabel line rows).map fun (rows, ends) =>
        ((label, value) :: rows, ends)

/-- The variables of a trace. -/
structure TraceScan where
  status : CStr
  msec : ℤ
  rows : List (String × TraceValue)

/-- `sscanf(buffer, "msec:%d", &msec)` of the one feature that has it. -/
def TraceFeature.scanMsec (t : TraceFeature) (line : CStr) : Option ℤ :=
  if t.msec then ((scanLit "msec:" line).bind strtol).map Prod.fst else none

/-- The loop over the lines. The milliseconds are logged as a string, which has
no outcome if the line is formatted. -/
def TraceFeature.scan (t : TraceFeature) (logsInfo : Bool) : List CStr → TraceScan → Option TraceScan
  | [], st => some st
  | line :: lines, st =>
    match scanBracket line with
    | some (status, _) =>
      if status.length < t.statusSize then t.scan logsInfo lines { st with status := status } else none
    | none =>
      match t.scanMsec line with
      | some msec => if logsInfo then none else t.scan logsInfo lines { st with msec := msec }
      | none =>
        match scanRows t.byLabel line st.rows with
        | none => none
        | some (rows, true) => some { st with rows := rows }
        | some (rows, false) => t.scan logsInfo lines { st with rows := rows }

/-- The item of a row. -/
def TraceValue.item : TraceValue → Item
  | .numbers vs => .array (vs.map .number)
  | .word w => .string w

/-- The answer to a trace. -/
def TraceFeature.item (t : TraceFeature) (role : ℤ) (feature userMac : CStr) (st : TraceScan) : Item :=
  let rows := st.rows.map fun (label, value) => (label, value.item)
  .object ([("role", .number role), ("feature", .string feature), ("user_mac", .string userMac)] ++
    ((if t.msec then [("msec", .number st.msec)] else []) ++
      match t.protocols with
      | none => rows
      | some protocols => [("protocols", .array (protocols.map fun p => .string p.toList)),
          ("stats", .object rows)]))

/-- The feature that a text starts with. -/
def traceFeature (feature : CStr) : Option TraceFeature :=
  traceFeatures.find? fun t => strncmpEq t.name.length t.name.toList feature

namespace Op

section

variable (env : OpEnv) (data : List Char)

/-- A string of the body in `char dst[18]`. -/
def field18 (root : Json) (field : String) : Op CStr := copied (copyField 18 root field [])

/-- The tree of `wtsl_core_do_disconnect`. -/
def disconnectItem (outcome : String) : Item := .object [("status", .string outcome.toList)]

/-- `wtsl_core_do_disconnect`. -/
def doDisconnect : Op Ptr :=
  env.withBody data fun root => do
    let mac ← field18 root "mac"
    let output ← env.output (kickUserCmd mac)
    let status ← ofOption (firstStatus output)
    if status = succText then env.answer (disconnectItem "success")
    else do
      note (.answer status)
      env.answer (disconnectItem "failed")

/-- The tree of `wtsl_core_get_node_traffic`. The buffer keeps the last line of
`ifconfig` if `date` prints none. -/
def trafficItem (output dateOutput : CStr) : Item :=
  let st := scanTraffic (fgetsLines 128 output) ⟨[], 0, 0⟩
  let buffer := (fgetsLines 128 dateOutput).head?.getD st.buffer
  .object [("id", .number 0), ("timestamp", .number (atoi buffer % 18446744073709551616)),
    ("rx_bytes", .number st.rxBytes), ("tx_bytes", .number st.txBytes)]

/-- `wtsl_core_get_node_traffic`. -/
def getNodeTraffic : Op Ptr :=
  env.withBody data fun root => do
    let interface ← copied (copyField 64 root "interface" [])
    match ← env.popened (ifconfigCmd interface) with
    | none => return .null
    | some run => do
      match ← env.popened dateCmd with
      | none => return .null
      | some date => env.answer (trafficItem run.output date.output)

/-- The tree of `wtsl_core_get_secalg`. -/
def secalgItem (algorithm : CStr) : Item := .object [("algorithm", .string algorithm)]

/-- `wtsl_core_get_secalg`. -/
def getSecalg : Op Ptr :=
  env.withBody data fun root => do
    let mac ← field18 root "user_mac"
    let (status, s) ← env.statusLine (getSecAlgCmd mac)
    let algorithm ← ofOption (scanAlgorithm s)
    succeeded status (env.answer (secalgItem algorithm))

/-- A command of the driver that answers nothing but its status. -/
def command (cmd : CStr) : Op Ptr := do
  let (status, _) ← env.statusLine cmd
  succeeded status (return .text "success".toList)

/-- `wtsl_core_set_adaptivemcs`. -/
def setAdaptivemcs : Op Ptr :=
  env.withBody data fun root => do
    let userMac ← field18 root "user_mac"
    let resType ← field18 root "res_type"
    let dir ← field18 root "dir"
    command env (schResTypeMcsCmd root userMac resType dir)

/-- `wtsl_core_do_clearschmcs`. -/
def doClearschmcs : Op Ptr :=
  env.withBody data fun root => do
    let userMac ← field18 root "user_mac"
    command env (clearSchMcsCmd userMac)

/-- `wtsl_core_set_mcsbound`. -/
def setMcsbound : Op Ptr :=
  env.withBody data fun root => do
    let userMac ← field18 root "user_mac"
    command env (setMcsBoundCmd root userMac)

/-- The tree of `wtsl_core_get_adaptivemcsinfo`; `s` is what follows the status. -/
def adaptivemcsItem (userMac resType dir s : CStr) : Item :=
  let mcs := ((scanLit "]mcs=" s).bind strtol).map Prod.fst
  .object [("user_mac", .string userMac), ("res_type", .string resType), ("dir", .string dir),
    ("mcs", .number (mcs.getD 0))]

/-- `wtsl_core_get_adaptivemcsinfo`. -/
def getAdaptivemcsinfo : Op Ptr :=
  env.withBody data fun root => do
    let userMac ← field18 root "user_mac"
    let resType ← field18 root "res_type"
    let dir ← field18 root "dir"
    let (status, s) ← env.statusLine (getSchResTypeMcsCmd userMac resType dir)
    succeeded status (env.answer (adaptivemcsItem userMac resType dir s))

/-- The tree of `wtsl_core_get_mcsboundinfo`; `s` is what follows the status. -/
def mcsboundItem (s : CStr) : Item :=
  let low := (scanLit "]low_bound=" s).bind strtol
  let up := low.bind fun (_, s) => (scanLit "up_bound=" (s.dropWhile isspace)).bind strtol
  .object [("low_bound", .number ((low.map Prod.fst).getD 0)),
    ("up_bound", .number ((up.map Prod.fst).getD 0))]

/-- `wtsl_core_get_mcsboundinfo`. -/
def getMcsboundinfo : Op Ptr :=
  env.withBody data fun root => do
    let userMac ← field18 root "user_mac"
    let (status, s) ← env.statusLine (getMcsBoundCmd userMac)
    succeeded status (env.answer (mcsboundItem s))

/-- The function of a feature, `wtsl_core_get_traceinfo_vip` and its siblings:
the status is logged, and the answer is made of what there is. -/
def trace (t : TraceFeature) (userMac feature : CStr) : Op Ptr := do
  let output ← env.output (traceCmd feature userMac)
  let st ← ofOption (t.scan env.logsInfo (fgetsLines 128 output) ⟨[], 0, t.rows⟩)
  if st.status = succText then env.answer (t.item env.params.type.toInt feature userMac st)
  else do
    note (.answer st.status)
    env.answer (t.item env.params.type.toInt feature userMac st)

/-- `wtsl_core_get_traceinfo`. -/
def getTraceinfo : Op Ptr :=
  env.withBody data fun root => do
    let userMac ← field18 root "user_mac"
    let feature ← field18 root "feature"
    match traceFeature feature with
    | none => reject .refused
    | some t => trace env t userMac feature

end

end Op

/-! ### The strings of a trace -/

/-- The word of a row, if it is one, has `errmsg` in it. -/
def TraceValue.mentions : TraceValue → Bool
  | .numbers _ => false
  | .word w => mentionsErrmsg w

theorem membersMention_append : ∀ xs ys : List (String × Item),
    membersMention (xs ++ ys) = (membersMention xs || membersMention ys)
  | [], ys => (Bool.false_or _).symm
  | (key, i) :: xs, ys => by
    rw [List.cons_append, membersMention, membersMention, membersMention_append xs ys, ← Bool.or_assoc]

theorem itemsMention_numbers : ∀ vs : List ℤ, itemsMention (vs.map .number) = false
  | [] => rfl
  | v :: vs => by
    rw [List.map_cons, itemsMention, Item.mentions, itemsMention_numbers vs]
    rfl

theorem TraceValue.item_mentions (v : TraceValue) : v.item.mentions = v.mentions := by
  cases v with
  | numbers vs =>
    rw [TraceValue.item, Item.mentions, itemsMention_numbers]
    rfl
  | word w =>
    rw [TraceValue.item, Item.mentions]
    rfl

/-- Rows with labels of the program. -/
theorem membersMention_rows : ∀ rows : List (String × TraceValue),
    (∀ label ∈ rows.map Prod.fst, mentionsErrmsg label.toList = false) →
      membersMention (rows.map fun row => (row.1, row.2.item)) = rows.any fun row => row.2.mentions
  | [], _ => rfl
  | (label, v) :: rows, h => by
    have hlabel : mentionsErrmsg label.toList = false := h label (by simp)
    have hrows := membersMention_rows rows fun l hl => h l (List.mem_cons_of_mem _ hl)
    rw [List.map_cons, membersMention, hlabel, v.item_mentions, hrows, Bool.false_or]
    rfl

/-- A line leaves the labels as they are. -/
theorem scanRows_labels {byLabel : Bool} {line : CStr} :
    ∀ {rows rows' : List (String × TraceValue)} {ends : Bool},
      scanRows byLabel line rows = some (rows', ends) → rows'.map Prod.fst = rows.map Prod.fst
  | [], rows', ends, h => by
    obtain ⟨rfl, -⟩ := Prod.mk.inj (Option.some.inj h)
    rfl
  | (label, v) :: rows, rows', ends, h => by
    unfold scanRows at h
    split at h
    · exact nomatch h
    · obtain ⟨rfl, -⟩ := Prod.mk.inj (Option.some.inj h)
      rfl
    · obtain ⟨⟨rows₁, ends₁⟩, h₁, hr⟩ := Option.map_eq_some_iff.mp h
      obtain ⟨rfl, -⟩ := Prod.mk.inj hr
      exact congrArg (label :: ·) (scanRows_labels h₁)

theorem TraceFeature.scan_labels {t : TraceFeature} {logsInfo : Bool} :
    ∀ {lines : List CStr} {st st' : TraceScan}, t.scan logsInfo lines st = some st' →
      st'.rows.map Prod.fst = st.rows.map Prod.fst
  | [], st, st', h => by
    rw [← Option.some.inj h]
  | line :: lines, st, st', h => by
    unfold TraceFeature.scan at h
    split at h
    · split_ifs at h
      have hrest := scan_labels h
      exact hrest
    · split at h
      · split_ifs at h
        have hrest := scan_labels h
        exact hrest
      · split at h
        · exact nomatch h
        · rename_i rows hrows
          rw [← Option.some.inj h]
          exact scanRows_labels hrows
        · rename_i rows hrows
          exact (scan_labels h).trans (scanRows_labels hrows)

/-- The labels and the columns of the features. -/
theorem traceFeatures_texts : ∀ t ∈ traceFeatures,
    (∀ label ∈ t.rows.map Prod.fst, mentionsErrmsg label.toList = false) ∧
      ∀ protocols ∈ t.protocols, ∀ p ∈ protocols, mentionsErrmsg p.toList = false := by
  decide +kernel

/-- The strings of a trace: those of the request, and the words that were read. -/
def traceMentions (feature userMac : CStr) (st : TraceScan) : Bool :=
  mentionsErrmsg feature || mentionsErrmsg userMac || st.rows.any fun row => row.2.mentions

theorem itemsMention_texts : ∀ ps : List String, (∀ p ∈ ps, mentionsErrmsg p.toList = false) →
    itemsMention (ps.map fun p => .string p.toList) = false
  | [], _ => rfl
  | p :: ps, h => by
    rw [List.map_cons, itemsMention, Item.mentions, h p (by simp),
      itemsMention_texts ps fun q hq => h q (List.mem_cons_of_mem _ hq)]
    rfl

/-- **What is the program's own in a trace is without `errmsg`.** -/
theorem TraceFeature.item_mentions {t : TraceFeature} {st : TraceScan} {role : ℤ}
    {feature userMac : CStr} (ht : t ∈ traceFeatures) (hst : st.rows.map Prod.fst = t.rows.map Prod.fst) :
    (t.item role feature userMac st).mentions = traceMentions feature userMac st := by
  obtain ⟨hlabels, hprotocols⟩ := traceFeatures_texts t ht
  have hrows := membersMention_rows st.rows (hst ▸ hlabels)
  have hhead : membersMention [("role", .number role), ("feature", .string feature),
      ("user_mac", .string userMac)] = (mentionsErrmsg feature || (mentionsErrmsg userMac || false)) := rfl
  have hmsec : membersMention (if t.msec then [("msec", .number st.msec)] else []) = false := by
    split_ifs <;> rfl
  unfold TraceFeature.item traceMentions
  rw [Item.mentions, membersMention_append, membersMention_append, hhead, hmsec, Bool.or_false,
    Bool.false_or]
  congr 1
  cases hp : t.protocols with
  | none => exact hrows
  | some protocols =>
    have hps := itemsMention_texts protocols (hprotocols protocols hp)
    have hstats : membersMention [("protocols", .array (protocols.map fun p => .string p.toList)),
        ("stats", .object (st.rows.map fun row => (row.1, row.2.item)))] =
        ((false || itemsMention (protocols.map fun p => .string p.toList)) || ((false ||
          membersMention (st.rows.map fun row => (row.1, row.2.item))) || false)) := rfl
    rw [hps, hrows] at hstats
    exact hstats.trans (by simp)

end WtslCore
