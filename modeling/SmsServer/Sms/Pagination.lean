import SmsServer.Library.Paging
import SmsServer.Library.Sql
import SmsServer.Sms.Database

/-!
# Paginated queries

`build_pagination_query`, `get_messages`, and the loop of the HTTP documentation that reads the
messages of a number page by page. Every request is a query of its own. `ORDER BY created_at`
leaves the order of messages of the same second open, so it is a parameter of each query.

`pagingComplete_iff` shows when the loop is complete whatever that order: no page may end between
two messages of the same second.
-/

namespace SmsServer

open RustStd Paging

/-! ### Queries -/

/-- A query with its order and its limits. -/
structure PaginationQuery where
  baseQuery : Str
  orderBy : Str
  orderDirection : Str
  limit : Option ℕ
  offset : Option ℕ
  deriving DecidableEq, Repr

def buildPaginationQuery (baseQuery orderBy : Str) (limit offset : Option ℕ) (reverse : Bool) :
    PaginationQuery :=
  { baseQuery, orderBy, orderDirection := (if reverse then "ASC" else "DESC").toList, limit,
    offset }

namespace PaginationQuery

/-- The text of the query. -/
def text (query : PaginationQuery) : Str :=
  query.baseQuery ++ " ORDER BY ".toList ++ query.orderBy ++ " ".toList ++ query.orderDirection ++
    query.limit.elim [] (fun limit => " LIMIT ".toList ++ showNat limit) ++
    query.offset.elim [] (fun offset => " OFFSET ".toList ++ showNat offset)

/-- What SQLite answers, given how it orders the rows of the base query. `OFFSET` is only a part
of `LIMIT`, and both are 64-bit signed integers. -/
def fetchAll {α : Type} (query : PaginationQuery) (orderRows : List α → List α) (rows : List α) :
    Except Str (List α) :=
  match query.limit, query.offset with
  | none, none => .ok (orderRows rows)
  | none, some _ => .error (Sql.syntaxError "OFFSET".toList)
  | some limit, offset =>
    if limit < Sql.integerBound ∧ offset.getD 0 < Sql.integerBound then
      .ok (((orderRows rows).drop (offset.getD 0)).take limit)
    else .error "datatype mismatch".toList

/-- The answer is the one to the text. -/
theorem answer_text {α : Type} (baseQuery orderBy : Str) (limit offset : Option ℕ) (reverse : Bool)
    (orderRows : Bool → List α → List α) (rows : List α) :
    Sql.answer (baseQuery ++ " ORDER BY ".toList ++ orderBy) orderRows rows
        (buildPaginationQuery baseQuery orderBy limit offset reverse).text =
      (buildPaginationQuery baseQuery orderBy limit offset reverse).fetchAll (orderRows reverse)
        rows := by
  have htokens : ∀ n : ℕ, ' ' ∉ showNat n := notMem_showNat (by decide)
  let tokens := limit.elim [] (fun n => ["LIMIT".toList, showNat n]) ++
    offset.elim [] fun n => ["OFFSET".toList, showNat n]
  have htext : (buildPaginationQuery baseQuery orderBy limit offset reverse).text =
      baseQuery ++ " ORDER BY ".toList ++ orderBy ++
        ' ' :: [' '].intercalate (Sql.directionText reverse :: tokens) := by
    cases limit <;> cases offset <;>
      simp [text, buildPaginationQuery, Sql.directionText, tokens, List.intercalate_cons_cons]
  have hplain : ∀ token ∈ tokens, ' ' ∉ token := by
    cases limit <;> cases offset <;> simp [tokens, htokens]
  rw [htext, Sql.answer_tokens reverse hplain]
  cases limit with
  | none => cases offset <;> rfl
  | some n =>
    cases offset with
    | none =>
      have hpos : 0 < Sql.integerBound := by decide
      rw [show tokens = ["LIMIT".toList, showNat n] from rfl, Sql.limitClause_limit,
        Sql.integer_showNat]
      by_cases hn : n < Sql.integerBound <;>
        simp [fetchAll, buildPaginationQuery, Except.map, Sql.slice, hn, hpos]
    | some m =>
      rw [show tokens = ["LIMIT".toList, showNat n, "OFFSET".toList, showNat m] from rfl,
        Sql.limitClause_limit_offset, Sql.integer_showNat, Sql.integer_showNat]
      by_cases hn : n < Sql.integerBound <;> by_cases hm : m < Sql.integerBound <;>
        simp [fetchAll, buildPaginationQuery, Except.map, bind, Except.bind, pure, Except.pure,
          Sql.slice, hn, hm]

end PaginationQuery

/-- `a` may come before `b`: ascending when reversed. -/
def Before (reverse : Bool) (a b : UnixTime) : Prop := if reverse then a ≤ b else b ≤ a

instance (reverse : Bool) : DecidableRel (Before reverse) := fun a b =>
  inferInstanceAs (Decidable (if reverse then a ≤ b else b ≤ a))

instance (reverse : Bool) : Std.Total (Before reverse) where
  total a b := by
    cases reverse
    · exact Nat.le_total b a
    · exact Nat.le_total a b

instance (reverse : Bool) : IsTrans UnixTime (Before reverse) where
  trans a b c hab hbc := by
    cases reverse
    · exact Nat.le_trans (m := b) hbc hab
    · exact Nat.le_trans (m := b) hab hbc

instance (reverse : Bool) : Std.Antisymm (Before reverse) where
  antisymm a b hab hba := by
    cases reverse
    · exact Nat.le_antisymm hba hab
    · exact Nat.le_antisymm hab hba

/-- How SQLite orders rows by `created_at`. -/
abbrev OrderByCreatedAt (reverse : Bool) := Arrangement (Before reverse) MessageRow.createdAt

/-! ### Messages -/

/-- `SmsMessage` as it is read, with the columns that the database sets. -/
structure StoredMessage extends SmsMessage where
  messageId : ℕ
  createdAt : UnixTime
  completedAt : Option UnixTime
  deriving DecidableEq, Repr

/-- What reading a row calls outside of the repository. -/
structure RowReader where
  decrypt : Str → Except Str Str
  /-- `row.get::<u8, _>("status")`, also of a `NULL`. -/
  getStatus : Option UInt8 → UInt8

/-- A reader of contents that are not encrypted. -/
def RowReader.plain : RowReader where
  decrypt := .ok
  getStatus status := status.getD 0

def RowReader.read (reader : RowReader) (row : MessageRow) : Except Str StoredMessage := do
  let messageContent ← reader.decrypt row.messageContent
  return { messageId := row.messageId
           phoneNumber := row.phoneNumber
           messageContent
           messageReference := row.messageReference
           isOutgoing := row.isOutgoing
           createdAt := row.createdAt
           completedAt := row.completedAt
           status := some (reader.getStatus row.status) }

namespace SMSDatabase

/-- `WHERE phone_number = ?`. -/
def messagesOf (self : SMSDatabase) (phoneNumber : Str) : List MessageRow :=
  self.messages.filter (·.phoneNumber = phoneNumber)

def selectMessages : Str :=
  ("SELECT message_id, phone_number, message_content, message_reference, is_outgoing, status, " ++
    "created_at, completed_at FROM messages WHERE phone_number = ?").toList

def getMessages (reader : RowReader) {reverse : Bool} (order : OrderByCreatedAt reverse)
    (self : SMSDatabase) (phoneNumber : Str) (limit offset : Option ℕ) :
    Except Str (List StoredMessage) := do
  let query := buildPaginationQuery selectMessages "created_at".toList limit offset reverse
  let rows ← (query.fetchAll order.arrange (self.messagesOf phoneNumber)).mapError
    fun _ => "Failed to query SmsMessage's".toList
  rows.mapM reader.read

/-- The loop of the documentation from page `pageIndex` on, `none` if the fuel does not last. The
request for page `k` is answered in the order `orders k`. -/
def readMessages (reader : RowReader) {reverse : Bool} (orders : ℕ → OrderByCreatedAt reverse)
    (self : SMSDatabase) (phoneNumber : Str) (pageSize : ℕ) :
    ℕ → ℕ → Option (Except Str (List StoredMessage))
  | 0, _ => none
  | fuel + 1, pageIndex =>
    match self.getMessages reader (orders pageIndex) phoneNumber (some pageSize)
      (some (pageSize * pageIndex)) with
    | .error e => some (.error e)
    | .ok messages =>
      -- without a full set of results it must be the final page
      if pageSize > messages.length then some (.ok messages)
      else (self.readMessages reader orders phoneNumber pageSize fuel (pageIndex + 1)).map
        fun rest => rest.map (messages ++ ·)

end SMSDatabase

/-! ### Reading rows -/

section

variable {reader : RowReader} {rows : List MessageRow} {messages : List StoredMessage}

/-- Whether the content of a row decrypts. -/
def RowReader.Reads (reader : RowReader) (row : MessageRow) : Prop :=
  ∃ content, reader.decrypt row.messageContent = .ok content

theorem RowReader.read_eq_ok {row : MessageRow} {message : StoredMessage}
    (h : reader.read row = .ok message) :
    reader.Reads row ∧ message.messageId = row.messageId := by
  unfold read at h
  cases hdecrypt : reader.decrypt row.messageContent with
  | error e =>
    rw [hdecrypt] at h
    cases h
  | ok content =>
    rw [hdecrypt] at h
    obtain rfl := Except.ok.inj h
    exact ⟨⟨content, hdecrypt⟩, rfl⟩

theorem RowReader.Reads.read {row : MessageRow} (h : reader.Reads row) :
    ∃ message, reader.read row = .ok message := by
  obtain ⟨content, hdecrypt⟩ := h
  rw [RowReader.read, hdecrypt]
  exact ⟨_, rfl⟩

/-- All rows are read, or the first that is not gives the error. -/
theorem mapM_eq_ok_iff :
    rows.mapM reader.read = .ok messages ↔
      List.Forall₂ (fun row message => reader.read row = .ok message) rows messages := by
  induction rows generalizing messages with
  | nil => simp [pure, Except.pure, eq_comm]
  | cons row rows ih =>
    rw [List.mapM_cons, List.forall₂_cons_left_iff]
    cases hread : reader.read row with
    | error e => simp [bind, Except.bind]
    | ok message =>
      cases hrows : rows.mapM reader.read with
      | error e => simp [bind, Except.bind, ← ih, hrows]
      | ok rest =>
        simp only [bind, Except.bind, pure, Except.pure, ← ih, hrows, Except.ok.injEq]
        constructor
        · rintro rfl
          exact ⟨message, rest, rfl, rfl, rfl⟩
        · rintro ⟨_, _, rfl, rfl, rfl⟩
          rfl

theorem map_messageId_of_forall₂
    (h : List.Forall₂ (fun row message => reader.read row = .ok message) rows messages) :
    messages.map (·.messageId) = rows.map (·.messageId) := by
  induction h with
  | nil => rfl
  | cons hread _ ih => rw [List.map_cons, List.map_cons, ih, (RowReader.read_eq_ok hread).2]

theorem exists_forall₂ (h : ∀ row ∈ rows, ∃ message, reader.read row = .ok message) :
    ∃ messages, List.Forall₂ (fun row message => reader.read row = .ok message) rows messages := by
  induction rows with
  | nil => exact ⟨[], .nil⟩
  | cons row rows ih =>
    obtain ⟨⟨message, hread⟩, hrows⟩ := List.forall_mem_cons.mp h
    obtain ⟨messages, hmessages⟩ := ih hrows
    exact ⟨message :: messages, .cons hread hmessages⟩

theorem exists_of_forall₂
    (h : List.Forall₂ (fun row message => reader.read row = .ok message) rows messages)
    {message : StoredMessage} (hmessage : message ∈ messages) :
    ∃ row ∈ rows, reader.read row = .ok message := by
  induction h with
  | nil => cases hmessage
  | cons hread _ ih =>
    rcases List.mem_cons.mp hmessage with rfl | hmessage
    · exact ⟨_, List.mem_cons_self, hread⟩
    · obtain ⟨row, hrow, hread⟩ := ih hmessage
      exact ⟨row, List.mem_cons_of_mem _ hrow, hread⟩

end

namespace SMSDatabase

variable {reader : RowReader} {db : SMSDatabase} {phoneNumber : Str} {pageSize : ℕ}
  {reverse : Bool}

/-- One page. SQLite refuses a size or an offset that is not a 64-bit integer. -/
theorem getMessages_page (order : OrderByCreatedAt reverse) (pageIndex : ℕ) :
    db.getMessages reader order phoneNumber (some pageSize) (some (pageSize * pageIndex)) =
      if pageSize < Sql.integerBound ∧ pageSize * pageIndex < Sql.integerBound then
        (page pageSize (order.arrange (db.messagesOf phoneNumber)) pageIndex).mapM reader.read
      else .error "Failed to query SmsMessage's".toList := by
  rw [page, Nat.mul_comm pageIndex, getMessages, PaginationQuery.fetchAll]
  simp only [buildPaginationQuery, Option.getD_some]
  split <;> rfl

/-- SQLite accepts the requests of the loop: those up to the page that holds the end. -/
def Requestable (db : SMSDatabase) (phoneNumber : Str) (pageSize : ℕ) : Prop :=
  pageSize < Sql.integerBound ∧
    pageSize * ((db.messagesOf phoneNumber).length / pageSize) < Sql.integerBound

instance (db : SMSDatabase) (phoneNumber : Str) (pageSize : ℕ) :
    Decidable (Requestable db phoneNumber pageSize) := inferInstanceAs (Decidable (_ ∧ _))

section

variable {orders : ℕ → OrderByCreatedAt reverse} {fuel pageIndex : ℕ}
  {messages : List StoredMessage}

/-- Every page but that with the end is full. -/
theorem page_full_iff (hpageSize : 0 < pageSize) (k pageIndex : ℕ) :
    ¬ (page pageSize ((orders k).arrange (db.messagesOf phoneNumber)) pageIndex).length <
        pageSize ↔ pageIndex + 1 ≤ (db.messagesOf phoneNumber).length / pageSize := by
  rw [page_short_iff hpageSize, (orders k).length_arrange, not_lt]

/-- A loop that ends well was never refused. -/
theorem requestable_of_readMessages (hpageSize : 0 < pageSize)
    (hindex : pageIndex ≤ (db.messagesOf phoneNumber).length / pageSize)
    (h : db.readMessages reader orders phoneNumber pageSize fuel pageIndex = some (.ok messages)) :
    db.Requestable phoneNumber pageSize := by
  induction fuel generalizing pageIndex messages with
  | zero => cases h
  | succ fuel ih =>
    rw [readMessages, getMessages_page] at h
    split at h
    · cases h
    · next first hfirst =>
      split at hfirst
      · next hbound =>
        have hlength := (mapM_eq_ok_iff.mp hfirst).length_eq
        rw [← hlength] at h
        by_cases hfull : pageIndex + 1 ≤ (db.messagesOf phoneNumber).length / pageSize
        · rw [if_neg ((page_full_iff hpageSize pageIndex pageIndex).mpr hfull)] at h
          obtain ⟨result, hrest, hmap⟩ := Option.map_eq_some_iff.mp h
          cases result with
          | error e => cases hmap
          | ok rest => exact ih hfull hrest
        · have hlast : pageIndex = (db.messagesOf phoneNumber).length / pageSize := by omega
          rwa [Requestable, ← hlast]
      · cases hfirst

/-- The loop yields what reading the rows of all its pages yields. -/
theorem readMessages_eq_ok_iff (hpageSize : 0 < pageSize)
    (hrequestable : db.Requestable phoneNumber pageSize)
    (hindex : pageIndex ≤ (db.messagesOf phoneNumber).length / pageSize) :
    db.readMessages reader orders phoneNumber pageSize fuel pageIndex = some (.ok messages) ↔
      ∃ rows, collect pageSize (fun k => (orders k).arrange (db.messagesOf phoneNumber)) fuel
          pageIndex = some rows ∧
        List.Forall₂ (fun row message => reader.read row = .ok message) rows messages := by
  induction fuel generalizing pageIndex messages with
  | zero => simp [readMessages, collect]
  | succ fuel ih =>
    have hbound : pageSize * pageIndex < Sql.integerBound :=
      (Nat.mul_le_mul_left pageSize hindex).trans_lt hrequestable.2
    have hnext : ¬ (page pageSize ((orders pageIndex).arrange (db.messagesOf phoneNumber))
        pageIndex).length < pageSize → _ := (page_full_iff hpageSize pageIndex pageIndex).mp
    rw [readMessages, collect, getMessages_page, if_pos ⟨hrequestable.1, hbound⟩]
    generalize page pageSize _ pageIndex = rows at hnext ⊢
    constructor
    · intro h
      split at h
      · cases h
      · next first hfirst =>
        have hrows := mapM_eq_ok_iff.mp hfirst
        rw [← hrows.length_eq] at h
        split at h
        · next hshort =>
          obtain rfl := Except.ok.inj (Option.some_inj.mp h)
          exact ⟨rows, if_pos hshort, hrows⟩
        · next hfull =>
          obtain ⟨result, hrest, hmap⟩ := Option.map_eq_some_iff.mp h
          cases result with
          | error e => cases hmap
          | ok rest =>
            obtain rfl := Except.ok.inj hmap
            obtain ⟨more, hmore, hread⟩ := (ih (hnext hfull)).mp hrest
            exact ⟨rows ++ more, by rw [if_neg hfull, hmore]; rfl, List.rel_append hrows hread⟩
    · rintro ⟨all, hall, hread⟩
      split at hall
      · next hshort =>
        obtain rfl := Option.some_inj.mp hall
        simp only [mapM_eq_ok_iff.mpr hread]
        rw [if_pos (by rwa [← hread.length_eq])]
      · next hfull =>
        obtain ⟨more, hmore, rfl⟩ := Option.map_eq_some_iff.mp hall
        obtain ⟨first, rest, rfl, hfirst, hrest⟩ : ∃ first rest, messages = first ++ rest ∧
            List.Forall₂ (fun row message => reader.read row = .ok message) rows first ∧
            List.Forall₂ (fun row message => reader.read row = .ok message) more rest :=
          ⟨_, _, (List.take_append_drop rows.length messages).symm,
            (List.forall₂_take_append messages rows more hread.flip).flip,
            (List.forall₂_drop_append messages rows more hread.flip).flip⟩
        simp only [mapM_eq_ok_iff.mpr hfirst]
        rw [if_neg (by rwa [← hfirst.length_eq]), (ih (hnext hfull)).mpr ⟨more, hmore, hrest⟩]
        rfl

end

/-! ### When the loop is complete -/

/-- The messages are those stored for the number, each once. -/
structure ReadsEachOnce (reader : RowReader) (db : SMSDatabase) (phoneNumber : Str)
    (messages : List StoredMessage) : Prop where
  once : (messages.map (·.messageId)).Perm ((db.messagesOf phoneNumber).map (·.messageId))
  stored : ∀ message ∈ messages, ∃ row ∈ db.messagesOf phoneNumber, reader.read row = .ok message

/-- Whatever the order of the rows is in each query, the loop ends and reads each message once. -/
def PagingComplete (reader : RowReader) (db : SMSDatabase) (phoneNumber : Str) (pageSize : ℕ)
    (reverse : Bool) : Prop :=
  ∀ orders : ℕ → OrderByCreatedAt reverse, ∃ fuel messages,
    db.readMessages reader orders phoneNumber pageSize fuel 0 = some (.ok messages) ∧
      ReadsEachOnce reader db phoneNumber messages

/-- The times of the messages of a number, in order. -/
def times (db : SMSDatabase) (phoneNumber : Str) (reverse : Bool) : List UnixTime :=
  sortedKeys (Before reverse) MessageRow.createdAt (db.messagesOf phoneNumber)

theorem mem_messagesOf {row : MessageRow} (h : row ∈ db.messagesOf phoneNumber) :
    row ∈ db.messages :=
  (List.mem_filter.mp h).1

theorem Keyed.messagesOf_nodup (hkeyed : db.Keyed) (phoneNumber : Str) :
    ((db.messagesOf phoneNumber).map (·.messageId)).Nodup :=
  hkeyed.nodup.sublist (List.filter_sublist.map _)

/-- A loop that is complete can read every row. -/
theorem PagingComplete.reads (h : PagingComplete reader db phoneNumber pageSize reverse)
    (hkeyed : db.Keyed) : ∀ row ∈ db.messagesOf phoneNumber, reader.Reads row := by
  intro row hrow
  obtain ⟨fuel, messages, -, honce⟩ := h fun _ => .insertion
  obtain ⟨message, hmessage, hid⟩ :=
    List.mem_map.mp (honce.once.mem_iff.mpr (List.mem_map_of_mem hrow))
  obtain ⟨stored, hstored, hread⟩ := honce.stored message hmessage
  obtain ⟨hreads, hid'⟩ := RowReader.read_eq_ok hread
  rwa [hkeyed.eq_of_messageId (mem_messagesOf hrow) (mem_messagesOf hstored)
    (hid.symm.trans hid')]

theorem PagingComplete.requestable
    (h : PagingComplete reader db phoneNumber pageSize reverse) (hpageSize : 0 < pageSize) :
    db.Requestable phoneNumber pageSize := by
  obtain ⟨fuel, messages, hread, -⟩ := h fun _ => .insertion
  exact requestable_of_readMessages hpageSize (Nat.zero_le _) hread

/-- A loop that is complete splits no second. -/
theorem PagingComplete.not_splitsTie
    (h : PagingComplete reader db phoneNumber pageSize reverse) (hkeyed : db.Keyed)
    (hpageSize : 0 < pageSize) : ¬ SplitsTie pageSize (db.times phoneNumber reverse) := by
  intro hsplits
  obtain ⟨orders, hrepeated⟩ := exists_repeated hpageSize hsplits
  obtain ⟨fuel, messages, hread, honce⟩ := h orders
  obtain ⟨rows, hrows, hmessages⟩ :=
    (readMessages_eq_ok_iff hpageSize (h.requestable hpageSize) (Nat.zero_le _)).mp hread
  obtain ⟨-, rfl⟩ :=
    (collect_eq_some_iff hpageSize fun k => (orders k).length_arrange _).mp hrows
  have hids := honce.once.nodup_iff.mpr (hkeyed.messagesOf_nodup phoneNumber)
  rw [map_messageId_of_forall₂ hmessages] at hids
  exact hrepeated (.of_map _ hids)

/-- **Paging.** For every content of the database, number, page size and direction: whatever the
order of messages of the same second is in each query, the loop ends and reads every message of
the number once, if and only if their contents decrypt, no page ends between two messages of the
same second, and SQLite takes the sizes and offsets that are requested. -/
theorem pagingComplete_iff (hkeyed : db.Keyed) (hpageSize : 0 < pageSize) :
    PagingComplete reader db phoneNumber pageSize reverse ↔
      (∀ row ∈ db.messagesOf phoneNumber, reader.Reads row) ∧
        ¬ SplitsTie pageSize (db.times phoneNumber reverse) ∧
        db.Requestable phoneNumber pageSize := by
  refine ⟨fun h => ⟨h.reads hkeyed, h.not_splitsTie hkeyed hpageSize, h.requestable hpageSize⟩, ?_⟩
  rintro ⟨hreads, hsplits, hrequestable⟩ orders
  have hperm := pages_perm hpageSize hsplits orders
  generalize hrows : pages pageSize _ _ = rows at hperm
  have hreads' : ∀ row ∈ rows, ∃ message, reader.read row = .ok message :=
    fun row hrow => (hreads row (hperm.mem_iff.mp hrow)).read
  obtain ⟨messages, hmessages⟩ := exists_forall₂ hreads'
  have hcollect := (collect_eq_some_iff hpageSize fun k => (orders k).length_arrange _).mpr
    ⟨Nat.lt_succ_self _, hrows⟩
  refine ⟨_, messages, (readMessages_eq_ok_iff hpageSize hrequestable (Nat.zero_le _)).mpr
    ⟨rows, hcollect, hmessages⟩, ?_, ?_⟩
  · rw [map_messageId_of_forall₂ hmessages]
    exact hperm.map _
  · intro message hmessage
    obtain ⟨row, hrow, hread⟩ := exists_of_forall₂ hmessages hmessage
    exact ⟨row, hperm.mem_iff.mp hrow, hread⟩

/-- The database after messages of one number were received at the given times. -/
def receivedAt (times : List UnixTime) : SMSDatabase :=
  times.foldl (fun db now => (db.insertMessage ⟨now, false⟩ .ok
    { phoneNumber := "1".toList, messageContent := [], messageReference := none,
      isOutgoing := false, status := none } true).1) .empty

/-- Two messages of the same second that share a page. -/
theorem pagingComplete_sharedPage :
    PagingComplete .plain (receivedAt [10, 20, 20]) "1".toList 2 false :=
  (pagingComplete_iff ⟨by decide, by decide⟩ (by decide)).mpr
    ⟨fun _ _ => ⟨_, rfl⟩, by decide, by decide⟩

/-- Two messages of the same second on two pages: the first is read twice, and the second never. -/
theorem splitSecond_repeats :
    (∃ orders : ℕ → OrderByCreatedAt false, ∃ messages,
      (receivedAt [20, 20]).readMessages .plain orders "1".toList 1 3 0 = some (.ok messages) ∧
        messages.map (·.messageId) = [1, 1]) ∧
      ¬ PagingComplete .plain (receivedAt [20, 20]) "1".toList 1 false := by
  refine ⟨⟨fun k => if k = 0 then .insertion else Arrangement.insertion.swapAt 0, _, rfl, rfl⟩,
    fun hcomplete => ?_⟩
  exact hcomplete.not_splitsTie ⟨by decide, by decide⟩ (by decide) (by decide)

end SMSDatabase

end SmsServer
