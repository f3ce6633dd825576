import Mathlib.Data.List.AList
import SmsServer.Http.Routes
import SmsServer.Library.Machine
import SmsServer.Sms.Queries

/-!
# Friendly names

The table `friendly_names`, which has the phone number as its key, with `update_friendly_name`,
`get_friendly_name` and the routes for them, and the join of `get_latest_numbers`. A table with a
key is an `AList`. The join has one row for each message, so grouping by number finds one friendly
name in each group (`groupByNumber_leftJoin`). So in every run of the routes, whatever fails and
whatever happens to the messages meanwhile, a name is given out with its number, by itself or in the
list of the latest numbers, exactly if it is the last one that was acknowledged for it
(`named_last`).
-/

namespace SmsServer

open RustStd Paging Machine

/-- `friendly_names`. -/
abbrev FriendlyNames := AList fun _ : Str => Str

namespace FriendlyNames

/-- `update_friendly_name`. -/
def updateFriendlyName (call : Call) (self : FriendlyNames) (phoneNumber : Str)
    (friendlyName : Option Str) : FriendlyNames × Except Str Unit :=
  match friendlyName with
  | some name =>
    -- `ON CONFLICT(phone_number) DO UPDATE SET friendly_name = excluded.friendly_name`
    if call.fails then (self, .error "Failed to insert friendly name".toList)
    else (self.insert phoneNumber name, .ok ())
  | none =>
    if call.fails then (self, .error "Failed to delete friendly name".toList)
    else (self.erase phoneNumber, .ok ())

/-- `get_friendly_name`. -/
def getFriendlyName (call : Call) (self : FriendlyNames) (phoneNumber : Str) :
    Except Str (Option Str) :=
  if call.fails then .error "Failed to query friendly name".toList
  else .ok (self.lookup phoneNumber)

/-- An update that does not fail sets the name of its number, and any other one nothing. -/
theorem lookup_updateFriendlyName (call : Call) (self : FriendlyNames) (phoneNumber : Str)
    (friendlyName : Option Str) :
    (self.updateFriendlyName call phoneNumber friendlyName).1.lookup =
      if call.fails then self.lookup
      else Function.update self.lookup phoneNumber friendlyName := by
  funext other
  cases friendlyName with
  | none =>
    rw [updateFriendlyName]
    split
    · rfl
    · by_cases h : other = phoneNumber
      · rw [h, AList.lookup_erase, Function.update_self]
      · rw [AList.lookup_erase_ne h, Function.update_of_ne h]
  | some name =>
    rw [updateFriendlyName]
    split
    · rfl
    · by_cases h : other = phoneNumber
      · rw [h, AList.lookup_insert, Function.update_self]
      · rw [AList.lookup_insert_ne h, Function.update_of_ne h]

theorem updateFriendlyName_snd (call : Call) (self : FriendlyNames) (phoneNumber : Str)
    (friendlyName : Option Str) :
    (self.updateFriendlyName call phoneNumber friendlyName).2 =
      if call.fails then
        .error (if friendlyName.isSome then "Failed to insert friendly name"
          else "Failed to delete friendly name").toList
      else .ok () := by
  cases friendlyName <;> rw [updateFriendlyName] <;> split <;> rfl

end FriendlyNames

/-! ### The join -/

/-- `messages m LEFT JOIN friendly_names f ON f.phone_number = m.phone_number`, with the columns of
`f` that are selected. -/
def leftJoin (messages : List MessageRow) (names : FriendlyNames) :
    List (MessageRow × Option Str) :=
  messages.flatMap fun message =>
    match names.entries.lookupAll message.phoneNumber with
    | [] => [(message, none)]
    | matching => matching.map fun name => (message, some name)

/-- A column that is selected without an aggregate: SQLite takes it from some row of the group. -/
structure BareColumn (A : Type) where
  value : List A → Option A
  mem : ∀ {column a}, value column = some a → a ∈ column
  isSome : ∀ {column}, column ≠ [] → (value column).isSome

/-- `GROUP BY m.phone_number`, and the column that is ordered by. -/
def groupByNumber (bare : BareColumn (Option Str)) (rows : List (MessageRow × Option Str)) :
    List LatestNumber :=
  (rows.map (·.1.phoneNumber)).dedup.map fun phoneNumber =>
    let group := rows.filter (·.1.phoneNumber = phoneNumber)
    { phoneNumber
      friendlyName := (bare.value (group.map (·.2))).join
      latest := (group.map (·.1.createdAt)).foldr max 0 }

/-- A number is the key of one name at most, so a message is one row of the join. -/
theorem leftJoin_eq (messages : List MessageRow) (names : FriendlyNames) :
    leftJoin messages names =
      messages.map fun message => (message, names.lookup message.phoneNumber) := by
  rw [leftJoin, List.map_eq_flatMap]
  refine List.flatMap_congr fun message _ => ?_
  have hall : names.entries.lookupAll message.phoneNumber =
      (names.lookup message.phoneNumber).toList :=
    List.lookupAll_eq_dlookup _ names.nodupKeys
  rw [hall]
  cases names.lookup message.phoneNumber with
  | none => rfl
  | some name => rfl

/-- A column that is the same in all rows of the group. -/
theorem BareColumn.value_eq {A : Type} (self : BareColumn A) {column : List A} {a : A}
    (hne : column ≠ []) (hall : ∀ b ∈ column, b = a) : self.value column = some a := by
  obtain ⟨b, hb⟩ := Option.isSome_iff_exists.mp (self.isSome hne)
  rw [hb, hall b (self.mem hb)]

/-- **The join.** Which row of a group a friendly name is taken from makes no difference. -/
theorem groupByNumber_leftJoin (bare : BareColumn (Option Str)) (names : FriendlyNames)
    (db : SMSDatabase) :
    groupByNumber bare (leftJoin db.messages names) = db.latestNumbers names.lookup := by
  rw [leftJoin_eq, groupByNumber, SMSDatabase.latestNumbers, List.map_map]
  refine List.map_congr_left fun phoneNumber hmem => ?_
  have hgroup : (db.messages.map fun message => (message, names.lookup message.phoneNumber)).filter
      (·.1.phoneNumber = phoneNumber) =
        (db.messagesOf phoneNumber).map fun message =>
          (message, names.lookup message.phoneNumber) := by
    rw [List.filter_map, SMSDatabase.messagesOf]
    rfl
  have hname : bare.value ((db.messagesOf phoneNumber).map fun message =>
      names.lookup message.phoneNumber) = some (names.lookup phoneNumber) := by
    refine bare.value_eq ?_ ?_
    · obtain ⟨message, hmessage, heq⟩ := List.mem_map.mp (List.mem_dedup.mp hmem)
      exact List.ne_nil_of_mem
        (List.mem_map_of_mem (List.mem_filter.mpr ⟨hmessage, by simpa using heq⟩))
    · intro name hname
      obtain ⟨message, hmessage, rfl⟩ := List.mem_map.mp hname
      have hnumber : message.phoneNumber = phoneNumber := by
        simpa using (List.mem_filter.mp hmessage).2
      rw [hnumber]
  simp only [hgroup, List.map_map, Function.comp_def, hname, Option.join_some]

/-- `get_latest_numbers`, with the join. -/
def getLatestNumbers (call : Call) (bare : BareColumn (Option Str)) {reverse : Bool}
    (order : Arrangement (Before reverse) LatestNumber.latest) (db : SMSDatabase)
    (names : FriendlyNames) (limit offset : Option ℕ) : Except Str (List (Str × Option Str)) :=
  if call.fails then .error "Failed to query latest numbers".toList
  else do
    let query := buildPaginationQuery SMSDatabase.selectLatestNumbers "MAX(m.created_at)".toList
      limit offset reverse
    let rows ← (query.fetchAll order.arrange
        (groupByNumber bare (leftJoin db.messages names))).mapError
      fun _ => "Failed to query latest numbers".toList
    return rows.map fun row => (row.phoneNumber, row.friendlyName)

theorem getLatestNumbers_eq (call : Call) (bare : BareColumn (Option Str)) {reverse : Bool}
    (order : Arrangement (Before reverse) LatestNumber.latest) (db : SMSDatabase)
    (names : FriendlyNames) (limit offset : Option ℕ) :
    getLatestNumbers call bare order db names limit offset =
      if call.fails then .error "Failed to query latest numbers".toList
      else db.getLatestNumbers names.lookup order limit offset := by
  rw [getLatestNumbers, groupByNumber_leftJoin, SMSDatabase.getLatestNumbers]

/-! ### The routes -/

/-- `GlobalFetchRequest` of `http/types.rs`. -/
structure GlobalFetchRequest where
  limit : Option ℕ
  offset : Option ℕ
  reverse : Bool
  deriving DecidableEq, Repr

/-- What the routes work on: the messages change under their hands. -/
structure NamesState where
  database : SMSDatabase
  friendlyNames : FriendlyNames

/-- How SQLite answers a query for the latest numbers. -/
structure LatestQuery where
  bare : BareColumn (Option Str)
  orders : ∀ reverse, Arrangement (Before reverse) LatestNumber.latest

/-- `db_friendly_names_set`. -/
def dbFriendlyNamesSet (call : Call) (names : FriendlyNames) (phoneNumber : Str)
    (friendlyName : Option Str) : FriendlyNames × Except HttpError Bool :=
  let (names, result) := names.updateFriendlyName call phoneNumber friendlyName
  (names, (result.map fun _ => true).mapError (HttpError.mk internalServerError))

/-- `db_friendly_names_get`. -/
def dbFriendlyNamesGet (call : Call) (names : FriendlyNames) (phoneNumber : Str) :
    Except HttpError (Option Str) :=
  (names.getFriendlyName call phoneNumber).mapError (HttpError.mk internalServerError)

/-- `db_latest_numbers`. -/
def dbLatestNumbers (query : LatestQuery) (call : Call) (s : NamesState)
    (payload : Option GlobalFetchRequest) : Except HttpError (List (Str × Option Str)) :=
  let request := payload.getD { limit := none, offset := none, reverse := false }
  (getLatestNumbers call query.bare (query.orders request.reverse) s.database s.friendlyNames
    request.limit request.offset).mapError (HttpError.mk internalServerError)

inductive NamesInput
  | set (call : Call) (phoneNumber : Str) (friendlyName : Option Str)
  | get (call : Call) (phoneNumber : Str)
  | latestNumbers (call : Call) (payload : Option GlobalFetchRequest)
  /-- Other tasks write to the other tables. -/
  | written (database : SMSDatabase)

/-- A response, with what it is for. -/
inductive NamesResponse
  | set (call : Call) (phoneNumber : Str) (friendlyName : Option Str)
      (result : Except HttpError Bool)
  | get (call : Call) (phoneNumber : Str) (result : Except HttpError (Option Str))
  | latestNumbers (call : Call) (database : SMSDatabase) (payload : Option GlobalFetchRequest)
      (result : Except HttpError (List (Str × Option Str)))

namespace NamesState

def step (query : LatestQuery) (s : NamesState) : NamesInput → NamesState × List NamesResponse
  | .set call phoneNumber friendlyName =>
    let (friendlyNames, result) :=
      dbFriendlyNamesSet call s.friendlyNames phoneNumber friendlyName
    ({ s with friendlyNames }, [.set call phoneNumber friendlyName result])
  | .get call phoneNumber =>
    (s, [.get call phoneNumber (dbFriendlyNamesGet call s.friendlyNames phoneNumber)])
  | .latestNumbers call payload =>
    (s, [.latestNumbers call s.database payload (dbLatestNumbers query call s payload)])
  | .written database => ({ s with database }, [])

end NamesState

/-! ### The names that were acknowledged -/

namespace NamesResponse

/-- A response acknowledges a name, or that there is none, for one number. -/
def acknowledge (names : Str → Option Str) : NamesResponse → Str → Option Str
  | set _ phoneNumber friendlyName (.ok _) => Function.update names phoneNumber friendlyName
  | _ => names

/-- The response is the one that the names call for. -/
def IsFor (query : LatestQuery) (names : Str → Option Str) : NamesResponse → Prop
  | set call _ friendlyName result =>
    result = if call.fails then
        .error ⟨internalServerError, (if friendlyName.isSome then "Failed to insert friendly name"
          else "Failed to delete friendly name").toList⟩
      else .ok true
  | get call phoneNumber result =>
    result = if call.fails then
        .error ⟨internalServerError, "Failed to query friendly name".toList⟩
      else .ok (names phoneNumber)
  | latestNumbers call database payload result =>
    let request := payload.getD { limit := none, offset := none, reverse := false }
    result = if call.fails then
        .error ⟨internalServerError, "Failed to query latest numbers".toList⟩
      else
        (database.getLatestNumbers names (query.orders request.reverse) request.limit
          request.offset).mapError (HttpError.mk internalServerError)

/-- Each response is the one that the names call for which were acknowledged before it. -/
def AllFor (query : LatestQuery) : (Str → Option Str) → List NamesResponse → Prop
  | _, [] => True
  | names, response :: rest =>
    response.IsFor query names ∧ AllFor query (response.acknowledge names) rest

theorem allFor_append {query : LatestQuery} {names : Str → Option Str}
    {before after : List NamesResponse} :
    AllFor query names (before ++ after) ↔
      AllFor query names before ∧ AllFor query (before.foldl acknowledge names) after := by
  induction before generalizing names with
  | nil => rw [List.nil_append, AllFor, true_and, List.foldl_nil]
  | cons response before ih =>
    rw [List.cons_append, AllFor, AllFor, ih, List.foldl_cons, and_assoc]

end NamesResponse

namespace NamesState

/-- What one step does to the names, and how it responds. -/
theorem step_spec (query : LatestQuery) (s : NamesState) (i : NamesInput) :
    NamesResponse.AllFor query s.friendlyNames.lookup (s.step query i).2 ∧
      (s.step query i).1.friendlyNames.lookup =
        (s.step query i).2.foldl NamesResponse.acknowledge s.friendlyNames.lookup := by
  cases i with
  | set call phoneNumber friendlyName =>
    have hlookup := s.friendlyNames.lookup_updateFriendlyName call phoneNumber friendlyName
    have hresult := s.friendlyNames.updateFriendlyName_snd call phoneNumber friendlyName
    simp only [step, dbFriendlyNamesSet, hlookup, hresult]
    split
    · next hfails => exact ⟨⟨(if_pos hfails).symm, trivial⟩, rfl⟩
    · next hfails => exact ⟨⟨(if_neg hfails).symm, trivial⟩, rfl⟩
  | get call phoneNumber =>
    refine ⟨⟨?_, trivial⟩, rfl⟩
    show Except.mapError _ _ = _
    rw [FriendlyNames.getFriendlyName]
    split <;> rfl
  | latestNumbers call payload =>
    refine ⟨⟨?_, trivial⟩, rfl⟩
    show Except.mapError _ _ = _
    rw [getLatestNumbers_eq]
    split <;> rfl
  | written database => exact ⟨trivial, rfl⟩

/-- **Friendly names.** In every run of the routes, whatever fails and however the messages change
meanwhile, a name is given out for its number, and listed with it, exactly if it is the last one
that was acknowledged for it. -/
theorem named_last (query : LatestQuery) (s : NamesState) (inputs : List NamesInput) :
    NamesResponse.AllFor query s.friendlyNames.lookup
      (Transducer.run (step query) s inputs).2 := by
  induction inputs generalizing s with
  | nil => trivial
  | cons i inputs ih =>
    obtain ⟨hstep, hnames⟩ := step_spec query s i
    rw [Transducer.run_cons, NamesResponse.allFor_append, ← hnames]
    exact ⟨hstep, ih _⟩

end NamesState

end SmsServer
