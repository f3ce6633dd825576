import Mathlib.Data.List.Dedup
import SmsServer.Sms.Pagination

/-!
# The paginated queries

`get_latest_numbers`, `get_messages` and `get_delivery_reports` share `build_pagination_query`,
which appends `LIMIT` and `OFFSET` independently of each other. `paginated_iff` says which limits
and offsets give a query that SQLite answers, and that its answer is then the documented slice.
-/

namespace SmsServer

open RustStd Paging

/-- A row of `get_latest_numbers`: the columns it selects, and the one it orders by. -/
structure LatestNumber where
  phoneNumber : Str
  friendlyName : Option Str
  /-- `MAX(m.created_at)`. -/
  latest : UnixTime
  deriving DecidableEq, Repr

namespace SMSDatabase

/-- The messages grouped by number, with the friendly name of each: `phone_number` is the key of
`friendly_names`. -/
def latestNumbers (friendlyNames : Str → Option Str) (self : SMSDatabase) : List LatestNumber :=
  (self.messages.map (·.phoneNumber)).dedup.map fun phoneNumber =>
    { phoneNumber
      friendlyName := friendlyNames phoneNumber
      latest := ((self.messagesOf phoneNumber).map (·.createdAt)).foldr max 0 }

def selectLatestNumbers : Str :=
  ("SELECT m.phone_number, f.friendly_name FROM messages m LEFT JOIN friendly_names f " ++
    "ON f.phone_number = m.phone_number GROUP BY m.phone_number").toList

def getLatestNumbers (friendlyNames : Str → Option Str) {reverse : Bool}
    (order : Arrangement (Before reverse) LatestNumber.latest) (self : SMSDatabase)
    (limit offset : Option ℕ) : Except Str (List (Str × Option Str)) := do
  let query :=
    buildPaginationQuery selectLatestNumbers "MAX(m.created_at)".toList limit offset reverse
  let rows ← (query.fetchAll order.arrange (self.latestNumbers friendlyNames)).mapError
    fun _ => "Failed to query latest numbers".toList
  return rows.map fun row => (row.phoneNumber, row.friendlyName)

/-- `WHERE message_id = ?`. -/
def deliveryReportsOf (self : SMSDatabase) (messageId : ℕ) : List DeliveryReportRow :=
  self.deliveryReports.filter (·.messageId = messageId)

def selectDeliveryReports : Str :=
  ("SELECT report_id, message_id, status, is_final, created_at FROM delivery_reports " ++
    "WHERE message_id = ?").toList

def getDeliveryReports {reverse : Bool}
    (order : Arrangement (Before reverse) DeliveryReportRow.createdAt) (self : SMSDatabase)
    (messageId : ℕ) (limit offset : Option ℕ) : Except Str (List DeliveryReportRow) :=
  let query :=
    buildPaginationQuery selectDeliveryReports "created_at".toList limit offset reverse
  (query.fetchAll order.arrange (self.deliveryReportsOf messageId)).mapError
    fun _ => "Failed to query delivery reports".toList

end SMSDatabase

/-! ### The documented slice -/

/-- SQLite accepts the text that is built, and answers the documented slice of the rows in the
requested order. -/
def Sliced {α : Type} {key : α → UnixTime} (select orderBy : Str)
    (orders : ∀ reverse, Arrangement (Before reverse) key) (rows : List α)
    (limit offset : Option ℕ) (reverse : Bool) : Prop :=
  Sql.answer (select ++ " ORDER BY ".toList ++ orderBy)
      (fun ascending => (orders ascending).arrange) rows
      (buildPaginationQuery select orderBy limit offset reverse).text =
    .ok (Sql.slice limit (offset.getD 0) ((orders reverse).arrange rows))

/-- An offset comes with a limit, and both are 64-bit signed integers. -/
def Sliceable (limit offset : Option ℕ) : Prop :=
  (offset.isSome → limit.isSome) ∧ (∀ n ∈ limit, n < 2 ^ 63) ∧ ∀ n ∈ offset, n < 2 ^ 63

section

variable {α : Type} {limit offset : Option ℕ}

theorem fetchAll_eq_slice (h : Sliceable limit offset) (select orderBy : Str) (reverse : Bool)
    (orderRows : List α → List α) (rows : List α) :
    (buildPaginationQuery select orderBy limit offset reverse).fetchAll orderRows rows =
      .ok (Sql.slice limit (offset.getD 0) (orderRows rows)) := by
  obtain ⟨hboth, hlimit, hoffset⟩ := h
  cases limit with
  | none =>
    cases offset with
    | none => rfl
    | some m => simp at hboth
  | some n =>
    have hbound : offset.getD 0 < Sql.integerBound := by
      cases offset with
      | none => exact Nat.two_pow_pos 63
      | some m => exact hoffset m rfl
    exact if_pos ⟨hlimit n rfl, hbound⟩

theorem sliceable_of_fetchAll {select orderBy : Str} {reverse : Bool}
    {orderRows : List α → List α} {rows answer : List α}
    (h : (buildPaginationQuery select orderBy limit offset reverse).fetchAll orderRows rows =
      .ok answer) : Sliceable limit offset := by
  cases limit with
  | none =>
    cases offset with
    | none => exact ⟨id, by simp, by simp⟩
    | some m => cases h
  | some n =>
    rw [PaginationQuery.fetchAll] at h
    simp only [buildPaginationQuery] at h
    split at h
    · next hbound =>
      refine ⟨fun _ => rfl, ?_, ?_⟩
      · rintro _ ⟨⟩
        exact hbound.1
      · rintro _ ⟨⟩
        exact hbound.2
    · cases h

theorem sliced_iff {key : α → UnixTime} (select orderBy : Str)
    (orders : ∀ reverse, Arrangement (Before reverse) key) (rows : List α) (reverse : Bool) :
    Sliced select orderBy orders rows limit offset reverse ↔ Sliceable limit offset := by
  rw [Sliced, PaginationQuery.answer_text]
  exact ⟨sliceable_of_fetchAll, fun h => fetchAll_eq_slice h ..⟩

end

namespace SMSDatabase

/-- **Pagination.** For every content of the database, every limit and offset, either direction and
every order of equal keys: the three queries are accepted and give the documented slice, if and
only if the offset comes with a limit and both are below 2^63. -/
theorem paginated_iff (reader : RowReader) (friendlyNames : Str → Option Str) (db : SMSDatabase)
    (phoneNumber : Str) (messageId : ℕ) (limit offset : Option UInt64) (reverse : Bool)
    (byLatest : ∀ reverse, Arrangement (Before reverse) LatestNumber.latest)
    (byCreatedAt : ∀ reverse, OrderByCreatedAt reverse)
    (byReportedAt : ∀ reverse, Arrangement (Before reverse) DeliveryReportRow.createdAt) :
    let limit' := limit.map UInt64.toNat
    let offset' := offset.map UInt64.toNat
    let numbers := (byLatest reverse).arrange (db.latestNumbers friendlyNames)
    let messages := (byCreatedAt reverse).arrange (db.messagesOf phoneNumber)
    let reports := (byReportedAt reverse).arrange (db.deliveryReportsOf messageId)
    (Sliced selectLatestNumbers "MAX(m.created_at)".toList byLatest
        (db.latestNumbers friendlyNames) limit' offset' reverse ∧
      Sliced selectMessages "created_at".toList byCreatedAt (db.messagesOf phoneNumber) limit'
        offset' reverse ∧
      Sliced selectDeliveryReports "created_at".toList byReportedAt (db.deliveryReportsOf messageId)
        limit' offset' reverse ∧
      db.getLatestNumbers friendlyNames (byLatest reverse) limit' offset' =
        .ok ((Sql.slice limit' (offset'.getD 0) numbers).map
          fun row => (row.phoneNumber, row.friendlyName)) ∧
      db.getMessages reader (byCreatedAt reverse) phoneNumber limit' offset' =
        (Sql.slice limit' (offset'.getD 0) messages).mapM reader.read ∧
      db.getDeliveryReports (byReportedAt reverse) messageId limit' offset' =
        .ok (Sql.slice limit' (offset'.getD 0) reports)) ↔
      (offset.isSome → limit.isSome) ∧ (∀ n ∈ limit, n.toNat < 2 ^ 63) ∧
        ∀ n ∈ offset, n.toNat < 2 ^ 63 := by
  intro limit' offset' numbers messages reports
  have hsliceable : Sliceable limit' offset' ↔ (offset.isSome → limit.isSome) ∧
      (∀ n ∈ limit, n.toNat < 2 ^ 63) ∧ ∀ n ∈ offset, n.toNat < 2 ^ 63 := by
    simp [Sliceable, limit', offset']
  rw [sliced_iff, sliced_iff, sliced_iff, ← hsliceable]
  refine ⟨fun h => h.1, fun h => ⟨h, h, h, ?_, ?_, ?_⟩⟩
  · rw [getLatestNumbers, fetchAll_eq_slice h]
    rfl
  · rw [getMessages, fetchAll_eq_slice h]
    rfl
  · rw [getDeliveryReports, fetchAll_eq_slice h]
    rfl

/-- An offset without a limit. -/
theorem offset_refused :
    (∀ orders : ∀ reverse, OrderByCreatedAt reverse,
      ¬ Sliced selectMessages "created_at".toList orders [] none (some 5) false) ∧
      SMSDatabase.empty.getMessages .plain (.insertion : OrderByCreatedAt false) "+1".toList none
        (some 5) = .error "Failed to query SmsMessage's".toList := by
  refine ⟨fun orders h => ?_, rfl⟩
  have hboth := ((sliced_iff _ _ orders [] false).mp h).1 rfl
  cases hboth

end SMSDatabase

end SmsServer
