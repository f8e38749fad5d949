/-
# Permissions and user contexts

`PermissionLevel` is the enumeration of `wtsl_user_manager.h`; the check
`checkPermissionUser` compares the masks bit by bit. A `UserContext` is what a
login leaves behind: ids, token, expiry and the permission of the user's
group. The server holds two of them, one in the user manager (written by a
login) and one in the HTTP module (a copy, handed to every node operation).

Key definitions: `PermissionLevel`, `UserContext`, `checkPermissionUser`,
`loginPermission`.
-/
import WtslCore.Lib.CStr

namespace WtslCore

/-- `PermissionLevel`. -/
inductive PermissionLevel
  | none
  | read
  | write
  | execute
  | admin
  deriving DecidableEq, Repr

/-- The bits of a permission level. -/
def PermissionLevel.mask : PermissionLevel → ℕ
  | .none => 0
  | .read => 1
  | .write => 2
  | .execute => 4
  | .admin => 7

/-- `UserContext`. -/
structure UserContext where
  userId : ℤ
  groupId : ℤ
  expire : ℤ
  token : CStr
  permission : PermissionLevel
  deriving DecidableEq, Repr

/-- A static `UserContext` before its first write: all zero. -/
def UserContext.zero : UserContext := ⟨0, 0, 0, [], .none⟩

/-- `check_permission_user`: every bit of `required` is set. -/
def checkPermissionUser (ctx : UserContext) (required : PermissionLevel) : Bool :=
  ctx.permission.mask &&& required.mask == required.mask

/-- The permission a login gives to a group: group 0 is `PERMISSION_ADMIN`,
1000 and all others are `PERMISSION_READ`. -/
def loginPermission (groupId : ℤ) : PermissionLevel := if groupId = 0 then .admin else .read

theorem checkPermissionUser_none {ctx : UserContext} {required : PermissionLevel}
    (h : ctx.permission = .none) (hr : required ≠ .none) :
    checkPermissionUser ctx required = false := by
  cases required <;> simp_all [checkPermissionUser, PermissionLevel.mask]

/-- The administrator's mask covers every permission. -/
theorem admin_mask_covers (required : PermissionLevel) :
    PermissionLevel.admin.mask &&& required.mask = required.mask := by
  cases required <;> decide

end WtslCore
