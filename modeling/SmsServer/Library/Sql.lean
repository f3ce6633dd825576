import SmsServer.Library.Decimal
import Mathlib.Algebra.Group.Nat.Defs

/-!
# The end of a SQLite query

What may follow the ordering term of a `SELECT`: a direction and a `LIMIT` clause. In the grammar
of SQLite `OFFSET` is only a part of `LIMIT`, and both take 64-bit signed integers. A query is
answered with the rows in the requested order, without the first `OFFSET` of them and cut off
after `LIMIT`.
-/

namespace Sql

open RustStd

/-- The largest integer is one less. -/
def integerBound : ℕ := 2 ^ 63

def syntaxError (token : Str) : Str := "near \"".toList ++ token ++ "\": syntax error".toList

/-- The value of an integer literal. One that is too large is read as a real number. -/
def integer (token : Str) : Except Str ℕ :=
  match digits? token with
  | none => .error (syntaxError token)
  | some n => if n < integerBound then .ok n else .error "datatype mismatch".toList

/-- The tokens of the `LIMIT` clause, with the value of `LIMIT` if there is one. -/
def limitClause : List Str → Except Str (Option ℕ × ℕ)
  | [] => .ok (none, 0)
  | [limit, n] => do
    if limit ≠ "LIMIT".toList then throw (syntaxError limit)
    let n ← integer n
    return (some n, 0)
  | [limit, n, offset, m] => do
    if limit ≠ "LIMIT".toList then throw (syntaxError limit)
    if offset ≠ "OFFSET".toList then throw (syntaxError offset)
    let n ← integer n
    let m ← integer m
    return (some n, m)
  | _ => .error "incomplete input".toList

/-- The direction of the order, `true` for ascending. -/
def direction (token : Str) : Except Str Bool :=
  if token = "ASC".toList then .ok true
  else if token = "DESC".toList then .ok false
  else .error (syntaxError token)

/-- The rows from `offset` on, at most `limit` of them. -/
def slice {α : Type} (limit : Option ℕ) (offset : ℕ) (rows : List α) : List α :=
  limit.elim (rows.drop offset) fun n => (rows.drop offset).take n

/-- The answer to a query that begins with `select` and its ordering term. -/
def answer {α : Type} (select : Str) (orderRows : Bool → List α → List α) (rows : List α)
    (text : Str) : Except Str (List α) :=
  match stripPrefix text (select ++ [' ']) with
  | none => .error (syntaxError text)
  | some rest => do
    let tokens := split ' ' rest
    let ascending ← direction (tokens.headD [])
    let (limit, offset) ← limitClause tokens.tail
    return slice limit offset (orderRows ascending rows)

theorem integer_showNat (n : ℕ) :
    integer (showNat n) =
      if n < integerBound then .ok n else .error "datatype mismatch".toList := by
  rw [integer, digits?_showNat]

theorem limitClause_limit (n : ℕ) :
    limitClause ["LIMIT".toList, showNat n] = (integer (showNat n)).map fun n => (some n, 0) := by
  cases h : integer (showNat n) <;>
  simp [limitClause, h, bind, Except.bind, pure, Except.pure, Except.map]

theorem limitClause_limit_offset (n m : ℕ) :
    limitClause ["LIMIT".toList, showNat n, "OFFSET".toList, showNat m] =
      (do let n ← integer (showNat n)
          let m ← integer (showNat m)
          return (some n, m)) := by
  simp [limitClause, bind, Except.bind, pure, Except.pure]

variable {α : Type} {select : Str} {orderRows : Bool → List α → List α} {rows : List α}
  {ascending : Bool}

def directionText (ascending : Bool) : Str := (if ascending then "ASC" else "DESC").toList

/-- What the tokens after the ordering term decide. -/
theorem answer_tokens (ascending : Bool) {tokens : List Str} (h : ∀ token ∈ tokens, ' ' ∉ token) :
    answer select orderRows rows
        (select ++ ' ' :: [' '].intercalate (directionText ascending :: tokens)) =
      (limitClause tokens).map fun clause =>
        slice clause.1 clause.2 (orderRows ascending rows) := by
  have hstrip : stripPrefix (select ++ ' ' :: [' '].intercalate (directionText ascending :: tokens))
      (select ++ [' ']) = some ([' '].intercalate (directionText ascending :: tokens)) := by
    rw [List.append_cons]
    exact stripPrefix_append _ _
  have hsplit : split ' ' ([' '].intercalate (directionText ascending :: tokens)) =
      directionText ascending :: tokens := by
    refine split_intercalate (List.cons_ne_nil _ _) (List.forall_mem_cons.mpr ⟨?_, h⟩)
    cases ascending <;> decide
  have hdirection : direction (directionText ascending) = .ok ascending := by
    cases ascending <;> rfl
  simp only [answer, hstrip, hsplit, List.headD_cons, List.tail_cons, hdirection]
  cases limitClause tokens <;> rfl

end Sql
