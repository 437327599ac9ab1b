import Mathlib.Data.List.Nodup
import ModernCommon.Widget.Statement

/-!
# What the server promises about the widget table

The table of the schema, and the documented effect of each statement on it: a
string literal is stored as its bytes, NULL is rejected by the NOT NULL columns
in strict mode, ids are unique, and the rows affected by an update are those
whose stored values changed. A server is any client library whose sessions hold
such a table and answer the statements scanned from the texts they are sent.

A query by category compares the bytes of the categories, as a server does whose
column has a binary collation. The default collation takes `Bolts` and `bolts`
for the same category, and a query then selects more rows than is said here.
-/

namespace ModernCommon
namespace Widget

open Library MySql DataFactory

/-- Rows of the table, unique by the primary key. -/
structure WidgetContent where
  rows : List WidgetEntry
  uniqueIds : (rows.map WidgetEntry.key).Nodup

namespace WidgetContent

/-- There is a row with this primary key. -/
def HasKey (content : WidgetContent) (key : WidgetKey) : Prop :=
  key ∈ content.rows.map WidgetEntry.key

instance (content : WidgetContent) (key : WidgetKey) :
    Decidable (content.HasKey key) :=
  inferInstanceAs (Decidable (_ ∈ _))

/-- Set the values of the row with an entry's key. -/
def replaced (content : WidgetContent) (entry : WidgetEntry) : List WidgetEntry :=
  content.rows.map fun row => if row.key = entry.key then entry else row

theorem hasKey_of_mem
    {content : WidgetContent}
    {entry : WidgetEntry}
    (present : entry ∈ content.rows) :
    content.HasKey entry.key :=
  List.mem_map_of_mem present

/-- Without a row to replace nothing changes. -/
theorem replaced_of_absent
    {content : WidgetContent}
    {entry : WidgetEntry}
    (absent : ¬content.HasKey entry.key) :
    content.replaced entry = content.rows := by
  rw [replaced, List.map_congr_left, List.map_id]
  intro row present
  rw [if_neg]
  · rfl
  · intro sameKey
    exact absent (sameKey ▸ hasKey_of_mem present)

theorem mem_replaced
    {content : WidgetContent}
    {entry : WidgetEntry}
    (present : content.HasKey entry.key) :
    entry ∈ content.replaced entry := by
  obtain ⟨row, isRow, sameKey⟩ := List.mem_map.mp present
  exact List.mem_map.mpr ⟨row, isRow, if_pos sameKey⟩

/-- Two rows with one key are one row. -/
theorem eq_of_key_eq
    (content : WidgetContent)
    {left right : WidgetEntry}
    (isLeft : left ∈ content.rows)
    (isRight : right ∈ content.rows)
    (sameKey : left.key = right.key) :
    left = right :=
  List.inj_on_of_nodup_map content.uniqueIds isLeft isRight sameKey

end WidgetContent

/-- The answer to a statement. -/
inductive Reply
  | failed (errno : Nat)
  | changed (affectedRows : Nat)
  | selected (rows : List WidgetEntry)

/-- NULL for a column that is NOT NULL. -/
def ER_BAD_NULL_ERROR : Nat := 1048

/-- Each string fits its VARCHAR(255) column, counted in characters. -/
def Statement.Fits (characters : Bytes → Nat) : Statement → Prop
  | .insert _ name category _ | .update _ name category _ =>
      (∀ value ∈ name, characters value ≤ 255) ∧
        ∀ value ∈ category, characters value ≤ 255
  | _ => True

/-- What a statement may answer on a table, and the table it leaves. Categories are
compared by their bytes. -/
inductive Executes :
    Statement → WidgetContent → Reply → WidgetContent → Prop
  | insertNull
      (isNull : name = none ∨ category = none) :
      Executes (.insert key name category quantity) before
        (.failed ER_BAD_NULL_ERROR) before
  | insertDuplicate
      (present : before.HasKey key) :
      Executes (.insert key (some name) (some category) quantity) before
        (.failed ER_DUP_ENTRY) before
  | insert
      (absent : ¬before.HasKey key)
      (stored : after.rows.Perm (⟨key, name, category, quantity⟩ :: before.rows)) :
      Executes (.insert key (some name) (some category) quantity) before
        (.changed 1) after
  | updateMissing
      (absent : ¬before.HasKey key) :
      Executes (.update key name category quantity) before (.changed 0) before
  | updateNull
      (present : before.HasKey key)
      (isNull : name = none ∨ category = none) :
      Executes (.update key name category quantity) before
        (.failed ER_BAD_NULL_ERROR) before
  | update
      (present : before.HasKey key)
      (stored : after.rows.Perm (before.replaced ⟨key, name, category, quantity⟩)) :
      Executes (.update key (some name) (some category) quantity) before
        (.changed
          (if ⟨key, name, category, quantity⟩ ∈ before.rows then 0 else 1)) after
  | delete
      (stored : after.rows.Perm (before.rows.filter fun row => row.key ≠ key)) :
      Executes (.delete key) before
        (.changed (before.rows.countP fun row => row.key = key)) after
  | selectAll
      (delivered : rows.Perm before.rows) :
      Executes .selectAll before (.selected rows) before
  | selectByKey
      (delivered : rows.Perm (before.rows.filter fun row => row.key = key)) :
      Executes (.selectByKey key) before (.selected rows) before
  | selectByCategory
      (delivered : rows.Perm
        (before.rows.filter fun row => some row.category = category)) :
      Executes (.selectByCategory category) before (.selected rows) before

namespace Executes

variable {key : WidgetKey} {name category : Option Bytes} {quantity : Int32}
variable {before after : WidgetContent} {reply : Reply}

/-- NULL is never stored. -/
theorem of_insert_null
    (executed : Executes (.insert key name category quantity) before reply after)
    (isNull : name = none ∨ category = none) :
    reply = .failed ER_BAD_NULL_ERROR ∧ after = before := by
  cases executed with
  | insertNull _ => exact ⟨rfl, rfl⟩
  | insertDuplicate _ => simp at isNull
  | insert _ _ => simp at isNull

theorem of_insert_absent
    {name category : Bytes}
    (executed : Executes (.insert key (some name) (some category) quantity)
      before reply after)
    (absent : ¬before.HasKey key) :
    reply = .changed 1 ∧
      after.rows.Perm (⟨key, name, category, quantity⟩ :: before.rows) := by
  cases executed with
  | insertNull isNull => simp at isNull
  | insertDuplicate present => exact absurd present absent
  | insert _ stored => exact ⟨rfl, stored⟩

theorem of_insert_present
    {name category : Bytes}
    (executed : Executes (.insert key (some name) (some category) quantity)
      before reply after)
    (present : before.HasKey key) :
    reply = .failed ER_DUP_ENTRY ∧ after = before := by
  cases executed with
  | insertNull isNull => simp at isNull
  | insertDuplicate _ => exact ⟨rfl, rfl⟩
  | insert absent _ => exact absurd present absent

/-- A row is affected when it is there and its values change. -/
theorem of_update
    {name category : Bytes}
    (executed : Executes (.update key (some name) (some category) quantity)
      before reply after) :
    reply = .changed
        (if before.HasKey key ∧
          ⟨key, name, category, quantity⟩ ∉ before.rows then 1 else 0) ∧
      after.rows.Perm (before.replaced ⟨key, name, category, quantity⟩) := by
  cases executed with
  | updateMissing absent =>
      rw [if_neg (fun both => absent both.1),
        WidgetContent.replaced_of_absent absent]
      exact ⟨rfl, List.Perm.refl _⟩
  | updateNull _ isNull => simp at isNull
  | update present stored =>
      refine ⟨?_, stored⟩
      by_cases unchanged : ⟨key, name, category, quantity⟩ ∈ before.rows <;>
        simp [present, unchanged]

/-- NULL is not stored by an update either, but the row must be there. -/
theorem of_update_null
    (executed : Executes (.update key name category quantity) before reply after)
    (isNull : name = none ∨ category = none) :
    reply = (if before.HasKey key then .failed ER_BAD_NULL_ERROR
      else .changed 0) ∧ after = before := by
  cases executed with
  | updateMissing absent => exact ⟨(if_neg absent).symm, rfl⟩
  | updateNull present _ => exact ⟨(if_pos present).symm, rfl⟩
  | update _ _ => simp at isNull

theorem of_delete
    (executed : Executes (.delete key) before reply after) :
    reply = .changed (before.rows.countP fun row => row.key = key) ∧
      after.rows.Perm (before.rows.filter fun row => row.key ≠ key) := by
  cases executed with
  | delete stored => exact ⟨rfl, stored⟩

theorem of_selectByKey
    (executed : Executes (.selectByKey key) before reply after) :
    after = before ∧ ∃ rows, reply = .selected rows ∧
      rows.Perm (before.rows.filter fun row => row.key = key) := by
  cases executed with
  | selectByKey delivered => exact ⟨rfl, _, rfl, delivered⟩

theorem of_selectAll
    (executed : Executes .selectAll before reply after) :
    after = before ∧ ∃ rows, reply = .selected rows ∧
      rows.Perm before.rows := by
  cases executed with
  | selectAll delivered => exact ⟨rfl, _, rfl, delivered⟩

/-- No row equals NULL. -/
theorem of_selectByCategory
    (executed : Executes (.selectByCategory category) before reply after) :
    after = before ∧ ∃ rows, reply = .selected rows ∧
      rows.Perm (before.rows.filter fun row => some row.category = category) := by
  cases executed with
  | selectByCategory delivered => exact ⟨rfl, _, rfl, delivered⟩

end Executes

/-- The cells of a row, each with the bytes of its column. -/
def cells (row : WidgetEntry) : MySqlRow :=
  [some (streamed row.key), some row.name, some row.category,
    some (streamed row.quantity)]

/-- How the client library reports an answer. -/
def Reports (mysql : MySqlClient σ) (sent : Int × σ) : Reply → Prop
  | .failed errno => sent.1 ≠ 0 ∧ mysql.errno sent.2 = errno
  | .changed affectedRows =>
      sent.1 = 0 ∧ mysql.affectedRows sent.2 = affectedRows
  | .selected rows =>
      sent.1 = 0 ∧ (mysql.storeResult sent.2).1 = some (rows.map cells)

/-- A client library whose sessions hold a widget table, its category of a binary
collation. -/
structure WidgetServer (σ : Type) extends MySqlClient σ where
  content : σ → WidgetContent
  /-- Length of a string in the characters of its column. -/
  characters : Bytes → Nat
  executes : ∀ text statement session,
    scan text = some statement.tokens → statement.Fits characters →
    ∃ reply,
      Executes statement (content session) reply
        (content (realQuery text session).2) ∧
      Reports toMySqlClient (realQuery text session) reply
  content_storeResult : ∀ session,
    content (storeResult session).2 = content session

end Widget
end ModernCommon
