import Mathlib
import NotificationDispatch.Listing
import NotificationDispatch.Handler

/-! # `List`'s SQL: `buildListWhere`, the two queries, and what PostgreSQL makes of them

`pgNotificationRepository.List` does not filter rows itself. `buildListWhere` writes a `WHERE`
clause with numbered placeholders and an argument list; `List` appends `LIMIT` and `OFFSET`
placeholders and their two arguments, runs `SELECT COUNT(*)` and then the page query, each a
statement of its own that reads the rows committed when it starts. Whether the rows it returns
are the ones the filter asks for depends on the text: every `$k` must stand where the `k`-th
argument belongs.

* The code's side, under the source's names: `parseListSelection` (the `status`, `channel`,
  `from` and `to` parameters of `parseListFilter`), `buildListWhere` with its `add` closure,
  `listQuery` (the `fmt.Sprintf` of the page query) and `PgRepository.list`. pgx reports an error
  that arises while a query executes through `rows.Err()`, which `List` returns without a wrapper;
  `QueryRow(...).Scan` reports every error of the count, which `List` wraps.
* PostgreSQL's side, in `Sql`: `words` splits a text at whitespace, `Sql.read` parses the two
  query shapes `List` sends, `Sql.prepare` checks the placeholders against the arguments as pgx
  and the server do, and `Sql.execute` binds each parameter at the type its column gives it (a
  text that is not a label of `notification_status` or `notification_channel` is refused) and
  evaluates the conditions, `OFFSET` and `LIMIT`.
* What `List` is for, `listSpec`: the number of rows that match the filter
  (`ListSelection.matches`) in the count's table, and the page at `offset` of those that match in
  the page query's table; PostgreSQL's refusals of an unknown enum label and of a negative
  `OFFSET` or `LIMIT` are part of it.

`PgRepository.list_eq_listSpec`: for every filter and every two tables, the texts `List` builds,
read and run by PostgreSQL, give exactly `listSpec`. `huge_page_offset_wraps` is `List` at the
pages whose offset wraps, and `list_endpoint_response` carries `listSpec` to the handler:
`GET /api/v1/notifications` answers `500` exactly when a `status` or `channel` value is not a
label of its enum or the offset wraps negative.
-/

namespace NotificationDispatch
set_option autoImplicit false

/-! ## The filter's other fields -/

/-- The labels of `notification_status`, as `domain.Status`'s constants spell them. -/
def Status.label : Status → String
  | .pending => "pending"
  | .queued => "queued"
  | .processing => "processing"
  | .sent => "sent"
  | .failed => "failed"
  | .cancelled => "cancelled"
  | .scheduled => "scheduled"

def statusLabels : List String :=
  ["pending", "queued", "processing", "sent", "failed", "cancelled", "scheduled"]

/-- The labels of `notification_channel`. -/
def channelLabels : List String := [channelSMS, channelEmail, channelPush]

/-- `domain.ListFilter`'s `Status`, `Channel`, `From` and `To` (`ListFilter` holds `Page` and
`Limit`). A status or channel is whatever text the query carried. -/
structure ListSelection where
  status : Option String
  channel : Option String
  fromTime : Option Int
  toTime : Option Int
  deriving DecidableEq, Repr

/-- The query string's values `parseListFilter` reads (`q.Get`, `""` when absent). -/
structure ListParams extends ListQuery where
  status : String
  channel : String
  fromText : String
  toText : String
  deriving DecidableEq, Repr

/-- The rest of `parseListFilter`: a non-empty `status` or `channel` is taken as it is; `from` and
`to` are kept when `time.Parse(time.RFC3339, ·)`, here `parseTime`, accepts them. -/
def parseListSelection (parseTime : String → Option Int) (q : ListParams) : ListSelection where
  status := if q.status = "" then none else some q.status
  channel := if q.channel = "" then none else some q.channel
  fromTime := if q.fromText = "" then none else parseTime q.fromText
  toTime := if q.toText = "" then none else parseTime q.toText

/-! ## `buildListWhere` and `List` -/

/-- A Go value passed to `pool.Query`. -/
inductive SqlArg
  | text (s : String)
  | time (t : Int)
  | int (n : BitVec 64)
  deriving DecidableEq, Repr

/-- `fmt.Sprintf(pre + "%d", n)`. -/
def sprintfD (pre : String) (n : Nat) : String := pre ++ toString n

/-- `buildListWhere`'s `add`: append the argument, then number the condition's placeholder with
the new length of the argument list. -/
def addCondition (acc : List String × List SqlArg) (condition : String) (val : SqlArg) :
    List String × List SqlArg :=
  let args := acc.2 ++ [val]
  (acc.1 ++ [sprintfD condition args.length], args)

/-- `buildListWhere`; each condition's format string is written up to its `%d`. -/
def buildListWhere (sel : ListSelection) : String × List SqlArg :=
  let acc : List String × List SqlArg := ([], [])
  let acc := match sel.status with
    | some st => addCondition acc "status = $" (.text st)
    | none => acc
  let acc := match sel.channel with
    | some c => addCondition acc "channel = $" (.text c)
    | none => acc
  let acc := match sel.fromTime with
    | some t => addCondition acc "created_at >= $" (.time t)
    | none => acc
  let acc := match sel.toTime with
    | some t => addCondition acc "created_at <= $" (.time t)
    | none => acc
  if acc.1.length = 0 then ("", acc.2)
  else (" WHERE " ++ " AND ".intercalate acc.1, acc.2)

/-- The page query's format string up to its first `%s`, line by line. -/
def listSelect : String :=
  "\n\t\tSELECT id, batch_id, channel, recipient, content, priority, status,\n\t\t       " ++
    "idempotency_key, retry_count, max_retries, next_retry_at,\n\t\t       " ++
    "scheduled_at, sent_at, provider_msg_id, error_message,\n\t\t       " ++
    "created_at, updated_at\n\t\tFROM notifications"

/-- The `fmt.Sprintf` of `List`'s page query. -/
def listQuery (whereText limitPlaceholder offsetPlaceholder : String) : String :=
  listSelect ++ whereText ++ "\n\t\tORDER BY created_at DESC\n\t\tLIMIT " ++ limitPlaceholder ++
    " OFFSET " ++ offsetPlaceholder

/-! ## PostgreSQL's reading of a query -/

namespace Sql

/-- The words of a text: the runs of characters between whitespace. -/
def words (s : String) : List String :=
  ((s.data.splitOnP Char.isWhitespace).filter (· ≠ [])).map String.mk

/-- A placeholder `$k`, `k ≥ 1`. -/
def parseParam (tok : String) : Option Nat :=
  match tok.data with
  | '$' :: ds =>
    if ds ≠ [] ∧ ds.all Char.isDigit ∧ 0 < Strconv.digitsValue ds then some (Strconv.digitsValue ds)
    else none
  | _ => none

/-- `<column> <op> $k`. -/
structure Cond where
  column : String
  op : String
  param : Nat
  deriving DecidableEq, Repr

/-- Conditions joined by `AND`, and the words after them. -/
def parseConds : List String → Option (List Cond × List String)
  | col :: op :: p :: rest =>
    (parseParam p).bind fun k =>
      match rest with
      | "AND" :: rest' => (parseConds rest').map fun r => (⟨col, op, k⟩ :: r.1, r.2)
      | _ => some ([⟨col, op, k⟩], rest)
  | _ => none

/-- What may follow the conditions: nothing, or the page query's ordering and page. -/
def parseTail : List String → Option (Option (Nat × Nat))
  | [] => some none
  | ["ORDER", "BY", "created_at", "DESC", "LIMIT", a, "OFFSET", b] =>
    (parseParam a).bind fun x => (parseParam b).map fun y => some (x, y)
  | _ => none

/-- `FROM notifications`, an optional `WHERE`, and the tail. -/
def parseFrom : List String → Option (List Cond × Option (Nat × Nat))
  | "FROM" :: "notifications" :: "WHERE" :: rest =>
    (parseConds rest).bind fun r => (parseTail r.2).map fun pg => (r.1, pg)
  | "FROM" :: "notifications" :: rest => (parseTail rest).map fun pg => ([], pg)
  | _ => none

theorem parseTail_page (a b : String) :
    parseTail ["ORDER", "BY", "created_at", "DESC", "LIMIT", a, "OFFSET", b] =
      (parseParam a).bind fun x => (parseParam b).map fun y => some (x, y) := rfl

theorem parseFrom_where (rest : List String) :
    parseFrom ("FROM" :: "notifications" :: "WHERE" :: rest) =
      (parseConds rest).bind fun r => (parseTail r.2).map fun pg => (r.1, pg) := rfl

theorem parseFrom_order (rest : List String) :
    parseFrom ("FROM" :: "notifications" :: "ORDER" :: rest) =
      (parseTail ("ORDER" :: rest)).map fun pg => ([], pg) := rfl

/-- A query of one of the two shapes `List` sends. -/
structure Query where
  count : Bool
  conds : List Cond
  page : Option (Nat × Nat)
  deriving DecidableEq, Repr

def read (text : String) : Option Query :=
  match words text with
  | "SELECT" :: "COUNT(*)" :: rest => (parseFrom rest).map fun r => ⟨true, r.1, r.2⟩
  | "SELECT" :: rest => (parseFrom (rest.dropWhile (· ≠ "FROM"))).map fun r => ⟨false, r.1, r.2⟩
  | _ => none

/-- The placeholders a query uses, in order. -/
def Query.params (q : Query) : List Nat :=
  q.conds.map (·.param) ++
    match q.page with
    | some (a, b) => [a, b]
    | none => []

/-- Parsing and describing the statement: the server's syntax check, its inference of a type
for each of `$1 ... $n`, and pgx's check that there are `n` arguments. -/
def prepare (text : String) (args : List SqlArg) : Except String Query :=
  match read text with
  | none => .error "ERROR: syntax error (SQLSTATE 42601)"
  | some q =>
    let n := q.params.foldr max 0
    if ∃ k ∈ List.range' 1 n, k ∉ q.params then
      .error "ERROR: could not determine data type of parameter (SQLSTATE 42P18)"
    else if args.length ≠ n then
      .error ("expected " ++ toString n ++ " arguments, got " ++ toString args.length)
    else .ok q

/-- `ERROR: invalid input value for enum ...`. -/
def enumError (type v : String) : String :=
  "ERROR: invalid input value for enum " ++ type ++ ": \"" ++ v ++ "\" (SQLSTATE 22P02)"

/-- One condition with its parameter bound at its column's type: the test on a row. -/
def bindCond (args : List SqlArg) (c : Cond) : Except String (Notification → Bool) :=
  match c.column, c.op, args[c.param - 1]? with
  | "status", "=", some (.text v) =>
    if v ∈ statusLabels then .ok fun n => n.status.label = v
    else .error (enumError "notification_status" v)
  | "channel", "=", some (.text v) =>
    if v ∈ channelLabels then .ok fun n => n.channel = v
    else .error (enumError "notification_channel" v)
  | "created_at", ">=", some (.time t) => .ok fun n => t ≤ n.createdAt
  | "created_at", "<=", some (.time t) => .ok fun n => n.createdAt ≤ t
  | _, _, _ => .error "ERROR: operator does not exist (SQLSTATE 42883)"

/-- The rows or the count a query yields. -/
inductive Result
  | count (n : Nat)
  | rows (ns : List Notification)

/-- Binding and executing a prepared query over the table, whose rows come in
`created_at DESC` order. -/
def execute (table : List Notification) (q : Query) (args : List SqlArg) : Except String Result :=
  match q.conds.mapM (bindCond args) with
  | .error e => .error e
  | .ok tests =>
    let matching := table.filter fun n => tests.all fun t => t n
    if q.count then .ok (.count matching.length)
    else
      match q.page with
      | none => .ok (.rows matching)
      | some (a, b) =>
        match args[a - 1]?, args[b - 1]? with
        | some (.int lim), some (.int off) =>
          if off.toInt < 0 then .error "ERROR: OFFSET must not be negative (SQLSTATE 2201X)"
          else if lim.toInt < 0 then .error "ERROR: LIMIT must not be negative (SQLSTATE 2201W)"
          else .ok (.rows ((matching.drop off.toNat).take lim.toNat))
        | _, _ => .error "ERROR: argument of LIMIT must be type bigint (SQLSTATE 42804)"

end Sql

/-- `pgNotificationRepository.List`. Its two statements run outside a transaction, each on the
rows committed when it starts: the count on `countTable`, the page query on `pageTable`, both in
`created_at DESC` order; a write that commits between them is seen by one and not the other.
`QueryRow(...).Scan(&total)` reports any error of the count; `pool.Query` reports only what
arises while preparing, and an error of the execution reaches `List` through `rows.Err()`. -/
def PgRepository.list (countTable pageTable : List Notification) (f : ListFilter)
    (sel : ListSelection) : Except Error (List Notification × Nat) :=
  let (whereText, args) := buildListWhere sel
  let offset := f.offset
  let countQuery := "SELECT COUNT(*) FROM notifications" ++ whereText
  match (Sql.prepare countQuery args).bind fun q => Sql.execute countTable q args with
  | .error e => .error (.wrap "count notifications" (.store e))
  | .ok (.rows _) => .error (.wrap "count notifications" (.store "can't scan into dest[0]"))
  | .ok (.count total) =>
    let args := args ++ [.int f.limit, .int offset]
    let limitPlaceholder := sprintfD "$" (args.length - 1)
    let offsetPlaceholder := sprintfD "$" args.length
    match Sql.prepare (listQuery whereText limitPlaceholder offsetPlaceholder) args with
    | .error e => .error (.wrap "list notifications" (.store e))
    | .ok q =>
      match Sql.execute pageTable q args with
      | .error e => .error (.store e)
      | .ok (.rows ns) => .ok (ns, total)
      | .ok (.count _) => .error (.store "can't scan a count into a notification")

/-! ## What `List` is for -/

/-- The rows the filter asks for. -/
def ListSelection.matches (sel : ListSelection) (n : Notification) : Bool :=
  sel.status.all (n.status.label = ·) && sel.channel.all (n.channel = ·) &&
    sel.fromTime.all (· ≤ n.createdAt) && sel.toTime.all (n.createdAt ≤ ·)

/-- The refusal of a channel that is not a label of `notification_channel`. -/
def ListSelection.badChannel (sel : ListSelection) : Option String :=
  match sel.channel with
  | some v => if v ∈ channelLabels then none else some (Sql.enumError "notification_channel" v)
  | none => none

/-- The refusal of a status, then of a channel, that is not a label of its enum. -/
def ListSelection.badEnum (sel : ListSelection) : Option String :=
  match sel.status with
  | some v => if v ∈ statusLabels then sel.badChannel else some (Sql.enumError "notification_status" v)
  | none => sel.badChannel

/-- The number of rows of `countTable` that match, and the `LIMIT`-long page at `OFFSET` of the
rows of `pageTable` that match. -/
def listSpec (countTable pageTable : List Notification) (f : ListFilter) (sel : ListSelection) :
    Except Error (List Notification × Nat) :=
  match sel.badEnum with
  | some e => .error (.wrap "count notifications" (.store e))
  | none =>
    if f.offset.toInt < 0 then .error (.store "ERROR: OFFSET must not be negative (SQLSTATE 2201X)")
    else if f.limit.toInt < 0 then .error (.store "ERROR: LIMIT must not be negative (SQLSTATE 2201W)")
    else .ok (((pageTable.filter sel.matches).drop f.offset.toNat).take f.limit.toNat,
      (countTable.filter sel.matches).length)

/-! ## `buildListWhere` in closed form -/

/-- One condition `buildListWhere` adds: its column, its operator and its argument. -/
structure ListTerm where
  column : String
  op : String
  arg : SqlArg
  deriving DecidableEq, Repr

/-- The condition's format string up to its `%d`. -/
def ListTerm.format (t : ListTerm) : String := t.column ++ " " ++ t.op ++ " $"

/-- The conditions of a selection, in `buildListWhere`'s order. -/
def ListSelection.terms (sel : ListSelection) : List ListTerm :=
  (sel.status.map fun v => ⟨"status", "=", .text v⟩).toList ++
    (sel.channel.map fun v => ⟨"channel", "=", .text v⟩).toList ++
    (sel.fromTime.map fun t => ⟨"created_at", ">=", .time t⟩).toList ++
    (sel.toTime.map fun t => ⟨"created_at", "<=", .time t⟩).toList

/-- The condition texts, numbered from `k`. -/
def condTexts (k : Nat) : List ListTerm → List String
  | [] => []
  | t :: ts => sprintfD t.format k :: condTexts (k + 1) ts

/-- The clause `buildListWhere` returns for its conditions. -/
def whereText (conds : List String) : String :=
  if conds.length = 0 then "" else " WHERE " ++ " AND ".intercalate conds

theorem foldl_addCondition (ts : List ListTerm) (acc : List String × List SqlArg) :
    ts.foldl (fun acc t => addCondition acc t.format t.arg) acc =
      (acc.1 ++ condTexts (acc.2.length + 1) ts, acc.2 ++ ts.map (·.arg)) := by
  induction ts generalizing acc with
  | nil => simp [condTexts]
  | cons t ts ih =>
    rw [List.foldl_cons, ih]
    simp [addCondition, condTexts, Nat.add_right_comm]

/-- `buildListWhere` numbers its conditions `$1, $2, ...` in order, and its arguments are the
conditions' values in the same order. -/
theorem buildListWhere_eq (sel : ListSelection) :
    buildListWhere sel = (whereText (condTexts 1 sel.terms), sel.terms.map (·.arg)) := by
  have hb : buildListWhere sel =
      (whereText (sel.terms.foldl (fun acc t => addCondition acc t.format t.arg) ([], [])).1,
        (sel.terms.foldl (fun acc t => addCondition acc t.format t.arg) ([], [])).2) := by
    rcases sel with ⟨_ | _, _ | _, _ | _, _ | _⟩ <;> rfl
  rw [hb, foldl_addCondition]
  rfl

/-- A column or operator word: no whitespace, not empty. -/
def plainWord (w : String) : Prop := (∀ c ∈ w.data, c.isWhitespace = false) ∧ w.data ≠ []

def ListTerm.plain (t : ListTerm) : Prop := plainWord t.column ∧ plainWord t.op

namespace Sql

/-! ## Words -/

theorem splitOnP_append_cons {α : Type} (p : α → Bool) {c : α} (hc : p c = true) (xs ys : List α) :
    (xs ++ c :: ys).splitOnP p = xs.splitOnP p ++ ys.splitOnP p := by
  induction xs with
  | nil => simp [hc]
  | cons x xs ih =>
    rw [List.cons_append, List.splitOnP_cons, List.splitOnP_cons, ih]
    split
    · rfl
    · cases h : xs.splitOnP p with
      | nil => exact absurd h (List.splitOnP_ne_nil _ _)
      | cons => rfl

theorem words_append_cons (a b : String) {c : Char} (hc : c.isWhitespace = true) :
    words (a ++ ⟨c :: b.data⟩) = words a ++ words b := by
  simp only [words, String.data_append, splitOnP_append_cons _ hc, List.filter_append,
    List.map_append]

theorem words_cons (l : List Char) {c : Char} (hc : c.isWhitespace = true) :
    words ⟨c :: l⟩ = words ⟨l⟩ := by
  simpa using words_append_cons "" ⟨l⟩ hc

/-- A text that starts with whitespace splits from what stands before it. -/
theorem words_append_of_head (a b : String) (h : b.data.head?.all Char.isWhitespace = true) :
    words (a ++ b) = words a ++ words b := by
  obtain ⟨l⟩ := b
  cases l with
  | nil => simp [words]
  | cons c l =>
    simp only [List.head?_cons, Option.all_some] at h
    rw [words_append_cons a ⟨l⟩ h, words_cons l h]

/-- A text without whitespace is one word. -/
theorem words_single (s : String) (h : ∀ c ∈ s.data, c.isWhitespace = false) (hne : s.data ≠ []) :
    words s = [s] := by
  have hs : s.data.splitOnP Char.isWhitespace = [s.data] :=
    List.splitOnP_eq_single _ _ fun c hc => by simp [h c hc]
  simp [words, hs, hne]

/-! ## Placeholders -/

theorem toDigits_facts (k : Nat) :
    Nat.toDigits 10 k ≠ [] ∧ (Nat.toDigits 10 k).all Char.isDigit ∧
      Strconv.digitsValue (Nat.toDigits 10 k) = k := by
  obtain ⟨hall, hval, hlen⟩ := Strconv.toDigitsCore_digits (k + 1) (Nat.lt_succ_self k) []
  exact ⟨List.ne_nil_of_length_pos hlen, by simpa using hall, by simpa using hval⟩

theorem parseParam_dollar (l : List Char) :
    parseParam ⟨'$' :: l⟩ =
      if l ≠ [] ∧ l.all Char.isDigit ∧ 0 < Strconv.digitsValue l then some (Strconv.digitsValue l)
      else none := rfl

theorem parseParam_sprintfD {k : Nat} (hk : 0 < k) : parseParam (sprintfD "$" k) = some k := by
  obtain ⟨hne, hall, hval⟩ := toDigits_facts k
  have hd : sprintfD "$" k = ⟨'$' :: Nat.toDigits 10 k⟩ := rfl
  rw [hd, parseParam_dollar, if_pos ⟨hne, hall, by rw [hval]; exact hk⟩, hval]

theorem isWhitespace_of_isDigit {c : Char} (h : c.isDigit = true) : c.isWhitespace = false := by
  simp only [Char.isDigit, Bool.and_eq_true, decide_eq_true_eq] at h
  have h1 : 48 ≤ c.val.toNat := h.1
  simp only [Char.isWhitespace, Bool.or_eq_false_iff, decide_eq_false_iff_not]
  refine ⟨⟨⟨fun he => ?_, fun he => ?_⟩, fun he => ?_⟩, fun he => ?_⟩ <;>
    (subst he; revert h1; decide)

theorem words_sprintfD (k : Nat) : words (sprintfD "$" k) = [sprintfD "$" k] := by
  obtain ⟨-, hall, -⟩ := toDigits_facts k
  refine words_single _ (fun c hc => ?_) (by simp [sprintfD])
  simp only [sprintfD, String.data_append] at hc
  rcases List.mem_append.mp hc with hc | hc
  · simp at hc; subst hc; rfl
  · exact isWhitespace_of_isDigit (List.all_eq_true.mp hall c hc)

theorem space_isWhitespace : ' '.isWhitespace = true := rfl

/-- A text that ends with whitespace splits from what follows it. -/
theorem words_append_of_last (a b : String) (h : a.data.getLast?.all Char.isWhitespace = true) :
    words (a ++ b) = words a ++ words b := by
  obtain ⟨l⟩ := a
  rcases List.eq_nil_or_concat l with rfl | ⟨init, c, rfl⟩
  · simp [words]
  · have hc : c.isWhitespace = true := by simpa using h
    have ha : words ⟨init.concat c⟩ = words ⟨init⟩ := by
      simpa [words] using words_append_cons ⟨init⟩ "" hc
    have hab : (⟨init.concat c⟩ : String) ++ b = ⟨init⟩ ++ ⟨c :: b.data⟩ := String.ext (by simp)
    rw [ha, hab, words_append_cons ⟨init⟩ b hc]

/-! ## The words of the conditions -/

/-- The words of condition `$k`. -/
def condWords (k : Nat) (t : ListTerm) : List String := [t.column, t.op, sprintfD "$" k]

/-- `AND` and a condition, for each of the conditions numbered from `k`. -/
def andWords : Nat → List ListTerm → List String
  | _, [] => []
  | k, t :: ts => "AND" :: condWords k t ++ andWords (k + 1) ts

theorem words_condition {t : ListTerm} (ht : t.plain) (k : Nat) :
    words (sprintfD t.format k) = condWords k t := by
  have hd : sprintfD t.format k = t.column ++ ⟨' ' :: (t.op ++ ⟨' ' :: (sprintfD "$" k).data⟩).data⟩ :=
    String.ext (by simp only [sprintfD, ListTerm.format, String.data_append, List.append_assoc]; rfl)
  rw [hd, words_append_cons _ _ space_isWhitespace, words_append_cons _ _ space_isWhitespace, words_single _ ht.1.1 ht.1.2,
    words_single _ ht.2.1 ht.2.2, words_sprintfD]
  rfl

theorem words_intercalate_go (acc : String) (k : Nat) (ts : List ListTerm) (ht : ∀ t ∈ ts, t.plain) :
    words (String.intercalate.go acc " AND " (condTexts k ts)) = words acc ++ andWords k ts := by
  induction ts generalizing acc k with
  | nil => simp [condTexts, String.intercalate.go, andWords]
  | cons t ts ih =>
    have hsplit : acc ++ " AND " ++ sprintfD t.format k =
        acc ++ ⟨' ' :: ("AND" ++ ⟨' ' :: (sprintfD t.format k).data⟩).data⟩ :=
      String.ext (by simp only [String.data_append, List.append_assoc]; rfl)
    simp only [condTexts, String.intercalate.go]
    rw [ih _ _ fun u hu => ht u (List.mem_cons_of_mem _ hu), hsplit, words_append_cons _ _ space_isWhitespace,
      words_append_cons _ _ space_isWhitespace, words_condition (ht t (List.mem_cons_self _ _)),
      words_single "AND" (by decide) (by decide)]
    simp [andWords]

/-- The words of a `WHERE` clause of conditions numbered from 1. -/
def whereWords : List ListTerm → List String
  | [] => []
  | t :: ts => "WHERE" :: condWords 1 t ++ andWords 2 ts

theorem words_whereText (ts : List ListTerm) (ht : ∀ t ∈ ts, t.plain) :
    words (whereText (condTexts 1 ts)) = whereWords ts := by
  cases ts with
  | nil => rfl
  | cons t ts =>
    have h1 : whereText (condTexts 1 (t :: ts)) =
        " WHERE " ++ String.intercalate.go (sprintfD t.format 1) " AND " (condTexts 2 ts) := rfl
    rw [h1, words_append_of_last " WHERE " _ (by decide), words_intercalate_go _ _ _ fun u hu =>
      ht u (List.mem_cons_of_mem _ hu), words_condition (ht t (List.mem_cons_self _ _))]
    rfl

/-! ## Reading the two queries back -/

/-- The conditions numbered from `k`, as PostgreSQL parses them. -/
def termConds (k : Nat) : List ListTerm → List Cond
  | [] => []
  | t :: ts => ⟨t.column, t.op, k⟩ :: termConds (k + 1) ts

theorem parseConds_words (t : ListTerm) (ts : List ListTerm) {k : Nat} (hk : 0 < k)
    (rest : List String) (hrest : rest.head? ≠ some "AND") :
    parseConds (condWords k t ++ andWords (k + 1) ts ++ rest) = some (termConds k (t :: ts), rest) := by
  induction ts generalizing t k with
  | nil =>
    simp only [condWords, andWords, List.append_nil, List.cons_append, List.nil_append, parseConds,
      parseParam_sprintfD hk, Option.some_bind]
    split
    · simp at hrest
    · rfl
  | cons u us ih =>
    have h := ih u (Nat.succ_pos k)
    simp only [condWords, andWords, List.cons_append, List.nil_append, List.append_assoc] at h ⊢
    simp only [parseConds, parseParam_sprintfD hk, Option.some_bind, h]
    rfl

/-- The page query's words before its `WHERE` clause. -/
def selectWords : List String :=
  ["SELECT", "id,", "batch_id,", "channel,", "recipient,", "content,", "priority,", "status,",
    "idempotency_key,", "retry_count,", "max_retries,", "next_retry_at,", "scheduled_at,",
    "sent_at,", "provider_msg_id,", "error_message,", "created_at,", "updated_at", "FROM",
    "notifications"]

theorem whereText_head (ts : List ListTerm) :
    (whereText (condTexts 1 ts)).data.head?.all Char.isWhitespace = true := by
  cases ts <;> rfl

theorem words_countQuery (ts : List ListTerm) (ht : ∀ t ∈ ts, t.plain) :
    words ("SELECT COUNT(*) FROM notifications" ++ whereText (condTexts 1 ts)) =
      ["SELECT", "COUNT(*)", "FROM", "notifications"] ++ whereWords ts := by
  rw [words_append_of_head _ _ (whereText_head ts), words_whereText ts ht]
  rfl

theorem words_listQuery (ts : List ListTerm) (ht : ∀ t ∈ ts, t.plain) (a b : Nat) :
    words (listQuery (whereText (condTexts 1 ts)) (sprintfD "$" a) (sprintfD "$" b)) =
      selectWords ++ whereWords ts ++
        ["ORDER", "BY", "created_at", "DESC", "LIMIT", sprintfD "$" a, "OFFSET", sprintfD "$" b] := by
  have htail : (whereText (condTexts 1 ts) ++ ("\n\t\tORDER BY created_at DESC\n\t\tLIMIT " ++
      (sprintfD "$" a ++ (" OFFSET " ++ sprintfD "$" b)))).data.head?.all Char.isWhitespace = true := by
    cases ts <;> rfl
  simp only [listQuery, String.append_assoc]
  rw [words_append_of_head _ _ htail, words_append_of_head (whereText _) _ (by rfl),
    words_append_of_last "\n\t\tORDER BY created_at DESC\n\t\tLIMIT " _ (by decide),
    words_append_of_head (sprintfD "$" a) _ (by rfl), words_append_of_last " OFFSET " _ (by decide),
    words_whereText ts ht, words_sprintfD, words_sprintfD]
  rfl

theorem read_countQuery (ts : List ListTerm) (ht : ∀ t ∈ ts, t.plain) :
    read ("SELECT COUNT(*) FROM notifications" ++ whereText (condTexts 1 ts)) =
      some ⟨true, termConds 1 ts, none⟩ := by
  unfold read
  rw [words_countQuery ts ht]
  cases ts with
  | nil => rfl
  | cons t ts =>
    have h := parseConds_words t ts Nat.one_pos [] (by simp)
    rw [List.append_nil] at h
    simp only [whereWords, List.cons_append, List.nil_append, parseFrom_where, h, Option.some_bind]
    rfl

theorem dropWhile_selectWords (l : List String) :
    (selectWords.tail ++ l).dropWhile (· ≠ "FROM") = "FROM" :: "notifications" :: l := rfl

theorem read_listQuery (ts : List ListTerm) (ht : ∀ t ∈ ts, t.plain) {a b : Nat} (ha : 0 < a)
    (hb : 0 < b) :
    read (listQuery (whereText (condTexts 1 ts)) (sprintfD "$" a) (sprintfD "$" b)) =
      some ⟨false, termConds 1 ts, some (a, b)⟩ := by
  have htail : parseTail ["ORDER", "BY", "created_at", "DESC", "LIMIT", sprintfD "$" a, "OFFSET",
      sprintfD "$" b] = some (some (a, b)) := by
    rw [parseTail_page, parseParam_sprintfD ha, parseParam_sprintfD hb]
    rfl
  unfold read
  rw [words_listQuery ts ht]
  show (parseFrom ((selectWords.tail ++ whereWords ts ++ _).dropWhile (· ≠ "FROM"))).map _ = _
  rw [List.append_assoc, dropWhile_selectWords]
  cases ts with
  | nil => simp only [whereWords, List.nil_append, parseFrom_order, htail, Option.map_some', termConds]
  | cons t ts =>
    have h := parseConds_words t ts Nat.one_pos
      ["ORDER", "BY", "created_at", "DESC", "LIMIT", sprintfD "$" a, "OFFSET", sprintfD "$" b] (by simp)
    simp only [whereWords, List.cons_append, List.append_assoc, parseFrom_where] at h ⊢
    simp only [h, htail, Option.some_bind, Option.map_some']

/-! ## Preparing: placeholders against arguments -/

theorem termConds_params (k : Nat) (ts : List ListTerm) :
    (termConds k ts).map (·.param) = List.range' k ts.length := by
  induction ts generalizing k with
  | nil => rfl
  | cons t ts ih => simp [termConds, ih, List.range'_succ]

theorem foldr_max_le {l : List Nat} {m : Nat} (hle : ∀ x ∈ l, x ≤ m) : l.foldr max 0 ≤ m := by
  induction l with
  | nil => exact Nat.zero_le _
  | cons x l ih => exact max_le (hle x (List.mem_cons_self _ _)) (ih fun z hz => hle z (by simp [hz]))

theorem foldr_max_eq {l : List Nat} {m : Nat} (hle : ∀ x ∈ l, x ≤ m) (hm : m ∈ l ∨ m = 0) :
    l.foldr max 0 = m := by
  refine le_antisymm (foldr_max_le hle) ?_
  rcases hm with hm | rfl
  · clear hle
    induction l with
    | nil => cases hm
    | cons x l ih =>
      rcases List.mem_cons.mp hm with rfl | hm
      · exact le_max_left _ _
      · exact (ih hm).trans (le_max_right _ _)
  · exact Nat.zero_le _

/-- A query that reads back, uses every placeholder up to its highest, and gets one argument
for each, is prepared. -/
theorem prepare_of_read {text : String} {args : List SqlArg} {q : Query} (hr : read text = some q)
    (hcover : ∀ k ∈ List.range' 1 (q.params.foldr max 0), k ∈ q.params)
    (hlen : args.length = q.params.foldr max 0) : prepare text args = .ok q := by
  unfold prepare
  rw [hr]
  dsimp only
  rw [if_neg fun ⟨k, hk, hn⟩ => hn (hcover k hk), if_neg (not_not.mpr hlen)]

theorem prepare_countQuery (ts : List ListTerm) (ht : ∀ t ∈ ts, t.plain) :
    prepare ("SELECT COUNT(*) FROM notifications" ++ whereText (condTexts 1 ts)) (ts.map (·.arg)) =
      .ok ⟨true, termConds 1 ts, none⟩ := by
  have hp : (Query.params ⟨true, termConds 1 ts, none⟩) = List.range' 1 ts.length := by
    simp [Query.params, termConds_params]
  have hmax : (List.range' 1 ts.length).foldr max 0 = ts.length :=
    foldr_max_eq (fun x hx => by simp [List.mem_range'_1] at hx; omega)
      (by cases ts <;> simp [List.mem_range'_1])
  refine prepare_of_read (read_countQuery ts ht) ?_ ?_ <;> rw [hp, hmax]
  · exact fun k hk => hk
  · exact List.length_map _ _

theorem prepare_listQuery (ts : List ListTerm) (ht : ∀ t ∈ ts, t.plain) (lim off : BitVec 64) :
    prepare (listQuery (whereText (condTexts 1 ts)) (sprintfD "$" (ts.length + 1))
        (sprintfD "$" (ts.length + 2))) (ts.map (·.arg) ++ [.int lim, .int off]) =
      .ok ⟨false, termConds 1 ts, some (ts.length + 1, ts.length + 2)⟩ := by
  have hp : (Query.params ⟨false, termConds 1 ts, some (ts.length + 1, ts.length + 2)⟩) =
      List.range' 1 ts.length ++ [ts.length + 1, ts.length + 2] := by
    simp [Query.params, termConds_params]
  have hmax : (List.range' 1 ts.length ++ [ts.length + 1, ts.length + 2]).foldr max 0 =
      ts.length + 2 :=
    foldr_max_eq (fun x hx => by simp [List.mem_range'_1] at hx; omega) (.inl (by simp))
  refine prepare_of_read (read_listQuery ts ht (Nat.succ_pos _) (Nat.succ_pos _)) ?_ ?_ <;>
    rw [hp, hmax]
  · intro k hk
    simp only [List.mem_range'_1, List.mem_append, List.mem_cons, List.mem_singleton,
      List.not_mem_nil, or_false] at hk ⊢
    omega
  · simp

/-! ## Binding and executing -/

/-- A condition with its own argument as `$1`. -/
def bindTerm (t : ListTerm) : Except String (Notification → Bool) :=
  bindCond [t.arg] ⟨t.column, t.op, 1⟩

/-- A condition reads only its column, its operator and its own argument. -/
theorem bindCond_congr {args args' : List SqlArg} (c c' : Cond) (h1 : c.column = c'.column)
    (h2 : c.op = c'.op) (h3 : args[c.param - 1]? = args'[c'.param - 1]?) :
    bindCond args c = bindCond args' c' := by
  unfold bindCond
  rw [h1, h2, h3]

/-- Placeholder `$k` of the conditions meets the `k`-th argument, whatever precedes and follows. -/
theorem mapM_bindCond (ts : List ListTerm) (pre extra : List SqlArg) :
    (termConds (pre.length + 1) ts).mapM (bindCond (pre ++ ts.map (·.arg) ++ extra)) =
      ts.mapM bindTerm := by
  induction ts generalizing pre with
  | nil => rfl
  | cons t ts ih =>
    have h := ih (pre ++ [t.arg])
    simp only [List.length_append, List.length_singleton, List.append_assoc,
      List.singleton_append, List.cons_append, List.nil_append] at h
    simp only [termConds, List.mapM_cons, List.map_cons, List.append_assoc, List.cons_append, h]
    rw [bindCond_congr ⟨t.column, t.op, pre.length + 1⟩ ⟨t.column, t.op, 1⟩ rfl rfl
      (by rw [Nat.add_sub_cancel, List.getElem?_append_right (le_refl _), Nat.sub_self]; simp :
        (pre ++ t.arg :: (ts.map (·.arg) ++ extra))[pre.length + 1 - 1]? = [t.arg][1 - 1]?)]
    rfl

/-- The conjunction of the bound conditions' tests: the filter the `WHERE` clause applies. -/
def allTests (tests : List (Notification → Bool)) (n : Notification) : Bool := tests.all (· n)

/-- Binding two lists of conditions binds the first, then the second, and conjoins the tests. -/
theorem mapM_bindTerm_append (l₁ l₂ : List ListTerm) :
    ((l₁ ++ l₂).mapM bindTerm).map allTests =
      ((l₁.mapM bindTerm).map allTests).bind fun a =>
        ((l₂.mapM bindTerm).map allTests).map fun b n => a n && b n := by
  rw [List.mapM_append]
  cases l₁.mapM bindTerm <;> cases l₂.mapM bindTerm <;> try rfl
  exact congrArg Except.ok (funext fun n => List.all_append ..)

theorem bindTerm_status (v : String) :
    bindTerm ⟨"status", "=", .text v⟩ = if v ∈ statusLabels then .ok fun n => n.status.label = v
      else .error (enumError "notification_status" v) := rfl

theorem bindTerm_channel (v : String) :
    bindTerm ⟨"channel", "=", .text v⟩ = if v ∈ channelLabels then .ok fun n => n.channel = v
      else .error (enumError "notification_channel" v) := rfl

theorem bindTerms_status (o : Option String) :
    ((o.map fun v => (⟨"status", "=", .text v⟩ : ListTerm)).toList.mapM bindTerm).map allTests =
      match o with
      | some v => if v ∈ statusLabels then .ok fun n => n.status.label = v
        else .error (enumError "notification_status" v)
      | none => .ok fun _ => true := by
  cases o with
  | none => rfl
  | some v =>
    simp only [Option.map_some', Option.toList_some, List.mapM_cons, List.mapM_nil, bindTerm_status]
    by_cases h : v ∈ statusLabels
    · rw [if_pos h]
      exact congrArg Except.ok (funext fun n => Bool.and_true _)
    · rw [if_neg h]
      rfl

theorem bindTerms_channel (o : Option String) :
    ((o.map fun v => (⟨"channel", "=", .text v⟩ : ListTerm)).toList.mapM bindTerm).map allTests =
      match o with
      | some v => if v ∈ channelLabels then .ok fun n => n.channel = v
        else .error (enumError "notification_channel" v)
      | none => .ok fun _ => true := by
  cases o with
  | none => rfl
  | some v =>
    simp only [Option.map_some', Option.toList_some, List.mapM_cons, List.mapM_nil, bindTerm_channel]
    by_cases h : v ∈ channelLabels
    · rw [if_pos h]
      exact congrArg Except.ok (funext fun n => Bool.and_true _)
    · rw [if_neg h]
      rfl

theorem bindTerms_fromTime (o : Option Int) :
    ((o.map fun t => (⟨"created_at", ">=", .time t⟩ : ListTerm)).toList.mapM bindTerm).map allTests =
      .ok fun n => o.all (· ≤ n.createdAt) := by
  cases o with
  | none => rfl
  | some t => exact congrArg Except.ok (funext fun n => Bool.and_true _)

theorem bindTerms_toTime (o : Option Int) :
    ((o.map fun t => (⟨"created_at", "<=", .time t⟩ : ListTerm)).toList.mapM bindTerm).map allTests =
      .ok fun n => o.all (n.createdAt ≤ ·) := by
  cases o with
  | none => rfl
  | some t => exact congrArg Except.ok (funext fun n => Bool.and_true _)

/-- The bound conditions of a selection: PostgreSQL refuses the first status or channel that is
not a label of its enum; otherwise together they test exactly `ListSelection.matches`. -/
theorem terms_bound (sel : ListSelection) :
    (sel.terms.mapM bindTerm).map allTests =
      match sel.badEnum with
      | some e => .error e
      | none => .ok sel.matches := by
  rcases sel with ⟨st, ch, t1, t2⟩
  simp only [ListSelection.terms, mapM_bindTerm_append, bindTerms_status, bindTerms_channel,
    bindTerms_fromTime, bindTerms_toTime, ListSelection.badEnum, ListSelection.badChannel]
  cases st <;> cases ch <;> simp only <;> (try split_ifs) <;>
    simp [Except.bind, Except.map, ListSelection.matches, Bool.and_assoc, funext_iff]

/-- The conditions `buildListWhere` numbers from `$1`, bound against its arguments and whatever
arguments follow them. -/
theorem bindConds_terms (sel : ListSelection) (extra : List SqlArg) :
    ((termConds 1 sel.terms).mapM (bindCond (sel.terms.map (·.arg) ++ extra))).map allTests =
      match sel.badEnum with
      | some e => .error e
      | none => .ok sel.matches := by
  have h := mapM_bindCond sel.terms [] extra
  simp only [List.length_nil, Nat.zero_add, List.nil_append] at h
  rw [h, terms_bound]

theorem eq_error_of_map_allTests {r : Except String (List (Notification → Bool))} {e : String}
    (h : r.map allTests = .error e) : r = .error e := by
  cases r <;> simp_all [Except.map]

theorem exists_ok_of_map_allTests {r : Except String (List (Notification → Bool))}
    {p : Notification → Bool} (h : r.map allTests = .ok p) :
    ∃ tests, r = .ok tests ∧ allTests tests = p := by
  cases r <;> simp_all [Except.map]

/-- The count query over the table: PostgreSQL's refusal of an enum value, or the number of
matching rows. -/
theorem execute_count (table : List Notification) (sel : ListSelection) :
    execute table ⟨true, termConds 1 sel.terms, none⟩ (sel.terms.map (·.arg)) =
      match sel.badEnum with
      | some e => .error e
      | none => .ok (.count (table.filter sel.matches).length) := by
  have h := bindConds_terms sel []
  rw [List.append_nil] at h
  unfold execute
  cases hb : sel.badEnum with
  | some e => rw [hb] at h; rw [eq_error_of_map_allTests h]
  | none =>
    rw [hb] at h
    obtain ⟨tests, ht, hp⟩ := exists_ok_of_map_allTests h
    rw [ht, ← hp]
    rfl

theorem getElem?_page_args (ts : List ListTerm) (lim off : BitVec 64) :
    (ts.map (·.arg) ++ [SqlArg.int lim, .int off])[ts.length + 1 - 1]? = some (.int lim) ∧
      (ts.map (·.arg) ++ [SqlArg.int lim, .int off])[ts.length + 2 - 1]? = some (.int off) := by
  have hl : (ts.map (·.arg)).length ≤ ts.length := by simp
  constructor
  · rw [Nat.add_sub_cancel, List.getElem?_append_right hl]
    simp
  · rw [show ts.length + 2 - 1 = ts.length + 1 from rfl,
      List.getElem?_append_right (hl.trans (Nat.le_succ _))]
    simp

/-- The page query over the table: PostgreSQL's refusal of an enum value, then of a negative
`OFFSET`, then of a negative `LIMIT`; otherwise the `LIMIT`-long page at `OFFSET` of the
matching rows. -/
theorem execute_page (table : List Notification) (sel : ListSelection) (lim off : BitVec 64) :
    execute table ⟨false, termConds 1 sel.terms, some (sel.terms.length + 1, sel.terms.length + 2)⟩
        (sel.terms.map (·.arg) ++ [.int lim, .int off]) =
      match sel.badEnum with
      | some e => .error e
      | none =>
        if off.toInt < 0 then .error "ERROR: OFFSET must not be negative (SQLSTATE 2201X)"
        else if lim.toInt < 0 then .error "ERROR: LIMIT must not be negative (SQLSTATE 2201W)"
        else .ok (.rows (((table.filter sel.matches).drop off.toNat).take lim.toNat)) := by
  have h := bindConds_terms sel [.int lim, .int off]
  obtain ⟨hlim, hoff⟩ := getElem?_page_args sel.terms lim off
  unfold execute
  cases hb : sel.badEnum with
  | some e => rw [hb] at h; rw [eq_error_of_map_allTests h]
  | none =>
    rw [hb] at h
    obtain ⟨tests, ht, hp⟩ := exists_ok_of_map_allTests h
    simp only [ht, hlim, hoff, ← hp, Bool.false_eq_true, if_false]
    rfl

/-- Every condition of a selection is a column and an operator without blanks. -/
theorem terms_plain (sel : ListSelection) : ∀ t ∈ sel.terms, t.plain := by
  have hplain : ∀ c o : String, plainWord c → plainWord o → ∀ a : SqlArg, (⟨c, o, a⟩ : ListTerm).plain :=
    fun _ _ hc ho _ => ⟨hc, ho⟩
  simp only [ListSelection.terms, List.mem_append, Option.mem_toList, Option.mem_def,
    Option.map_eq_some']
  rintro t (((⟨v, -, rfl⟩ | ⟨v, -, rfl⟩) | ⟨v, -, rfl⟩) | ⟨v, -, rfl⟩) <;>
    exact hplain _ _ (by unfold plainWord; decide) (by unfold plainWord; decide) _

end Sql

/-- `pgNotificationRepository.List` is what `List` is for: it refuses a status or a channel
that is not a label of its enum (while counting), then a negative offset or limit (while
listing), and otherwise returns the page of the rows the filter selects and their number. -/
theorem PgRepository.list_eq_listSpec (countTable pageTable : List Notification) (f : ListFilter)
    (sel : ListSelection) :
    PgRepository.list countTable pageTable f sel = listSpec countTable pageTable f sel := by
  have ht := Sql.terms_plain sel
  have hlen : sel.terms.length + 2 - 1 = sel.terms.length + 1 := rfl
  have hlen' : (sel.terms.map (·.arg) ++ [SqlArg.int f.limit, .int f.offset]).length =
      sel.terms.length + 2 := by simp
  unfold PgRepository.list
  simp only [buildListWhere_eq, Sql.prepare_countQuery _ ht, Except.bind,
    Sql.execute_count, hlen', hlen, Sql.prepare_listQuery _ ht, Sql.execute_page, listSpec]
  cases sel.badEnum with
  | some e => rfl
  | none => simp only; split_ifs <;> rfl


/-- `List` at a huge page. For page `2^62 + 1` and limit 4, with no other parameter,
`(page - 1) * limit = 2^64` wraps to the offset `0`, and `List` returns the first page. For
page `2^62` it wraps to `-4`, and `List` returns PostgreSQL's refusal as `rows.Err()` reports it.
In general, the offset is the product exactly while the product fits an `int`, and every page up
to `math.MaxInt64` is one a query string asks for. -/
theorem huge_page_offset_wraps :
    (∀ q : ListQuery, (parseListFilter q).offset.toInt =
        ((parseListFilter q).page.toInt - 1) * (parseListFilter q).limit.toInt ↔
      ((parseListFilter q).page.toInt - 1) * (parseListFilter q).limit.toInt ≤ Strconv.maxInt) ∧
    (∀ n : Nat, 1 ≤ n → n ≤ Strconv.maxInt → ∀ limit : String,
      (parseListFilter ⟨toString n, limit⟩).page.toInt = n) ∧
    (parseListFilter ⟨"4611686018427387905", "4"⟩).page.toInt = 4611686018427387905 ∧
    (parseListFilter ⟨"4611686018427387905", "4"⟩).limit.toInt = 4 ∧
    (parseListFilter ⟨"4611686018427387905", "4"⟩).offset.toInt = 0 ∧
    (∀ (parseTime : String → Option Int) (countTable pageTable : List Notification),
      PgRepository.list countTable pageTable (parseListFilter ⟨"4611686018427387905", "4"⟩)
          (parseListSelection parseTime ⟨⟨"4611686018427387905", "4"⟩, "", "", "", ""⟩) =
        .ok (pageTable.take 4, countTable.length)) ∧
    (parseListFilter ⟨"4611686018427387904", "4"⟩).offset.toInt = -4 ∧
    ∀ (parseTime : String → Option Int) (countTable pageTable : List Notification),
      PgRepository.list countTable pageTable (parseListFilter ⟨"4611686018427387904", "4"⟩)
          (parseListSelection parseTime ⟨⟨"4611686018427387904", "4"⟩, "", "", "", ""⟩) =
        .error (.store "ERROR: OFFSET must not be negative (SQLSTATE 2201X)") := by
  have h1 : parseListFilter ⟨"4611686018427387905", "4"⟩ =
      ⟨BitVec.ofNat 64 4611686018427387905, BitVec.ofNat 64 4⟩ := by decide
  have h2 : parseListFilter ⟨"4611686018427387904", "4"⟩ =
      ⟨BitVec.ofNat 64 4611686018427387904, BitVec.ofNat 64 4⟩ := by decide
  have hsel : ∀ (parseTime : String → Option Int) (p : String),
      parseListSelection parseTime ⟨⟨p, "4"⟩, "", "", "", ""⟩ = ⟨none, none, none, none⟩ :=
    fun _ _ => rfl
  have hall : ListSelection.matches ⟨none, none, none, none⟩ = fun _ => true := rfl
  refine ⟨ListFilter.offset_exact_iff, fun n hn hmax limit => parseListFilter_page_toString hn hmax limit,
    ?_⟩
  rw [h1, h2]
  refine ⟨by decide, by decide, by decide, fun pt ct pgt => ?_, by decide, fun pt ct pgt => ?_⟩
  · rw [PgRepository.list_eq_listSpec, hsel]
    simp only [listSpec, hall, List.filter_true]
    rw [if_neg (by decide), if_neg (by decide)]
    rfl
  · rw [PgRepository.list_eq_listSpec, hsel]
    simp only [listSpec]
    rw [if_pos (by decide)]
    rfl

/-! ## The `List` endpoint -/

/-- `NotificationHandler.List`: `parseListFilter`, then `NotificationService.List`, which is the
repository's `List`; any error is a `500` with `failed to list notifications`, else `200` with the
page, the total and the filter's `Page` and `Limit`. -/
def NotificationHandler.list (parseTime : String → Option Int)
    (countTable pageTable : List Notification) (q : ListParams) : Response :=
  let filter := parseListFilter q.toListQuery
  match PgRepository.list countTable pageTable filter (parseListSelection parseTime q) with
  | .error _ => respondError 500 "failed to list notifications"
  | .ok (ns, total) => ⟨200, .page ns total filter.page filter.limit⟩

/-- What `GET /api/v1/notifications` answers, for every query string and the tables its two
statements read: `500` when a status or a channel is not a label of its enum, or when
`(page - 1) * limit` wraps to a negative offset; otherwise `200` with the rows of the page
query's table that the filter selects, from that offset on, at most `limit` of them, and the
number the count query found. The limit is never negative, so PostgreSQL's `LIMIT` check never
fires. -/
theorem list_endpoint_response (parseTime : String → Option Int)
    (countTable pageTable : List Notification) (q : ListParams) :
    NotificationHandler.list parseTime countTable pageTable q =
      let filter := parseListFilter q.toListQuery
      let sel := parseListSelection parseTime q
      if sel.badEnum.isSome ∨ filter.offset.toInt < 0 then
        respondError 500 "failed to list notifications"
      else ⟨200, .page (((pageTable.filter sel.matches).drop filter.offset.toNat).take
        filter.limit.toNat) (countTable.filter sel.matches).length filter.page filter.limit⟩ := by
  have hlim : ¬(parseListFilter q.toListQuery).limit.toInt < 0 := by
    have := (parseListFilter_ranges q.toListQuery).2.1
    omega
  unfold NotificationHandler.list
  simp only [PgRepository.list_eq_listSpec, listSpec]
  cases (parseListSelection parseTime q).badEnum with
  | some e => rfl
  | none =>
    by_cases ho : (parseListFilter q.toListQuery).offset.toInt < 0
    · rw [if_pos ho, if_pos (.inr ho)]
    · rw [if_neg ho, if_neg hlim, if_neg (by simpa using ho)]

end NotificationDispatch
