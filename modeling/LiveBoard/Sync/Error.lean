import LiveBoard.Api.Error
import LiveBoard.Board.Action

/-! Why a change to the board failed. -/

namespace LiveBoard

/-- Input that is refused before anything is asked of the server. -/
inductive InputFault where
  | titleMissing
  | editedTitleMissing
  | messageMissing
  deriving DecidableEq

/-- The message for input that is refused. -/
def InputFault.message : InputFault → String
  | .titleMissing => "Add a task title to continue."
  | .editedTitleMissing => "Title is required."
  | .messageMissing => "Write a message before sending."

/-- The message for an action that was refused. -/
def Refusal.message : Refusal → String
  | .missingId kind => kind.name ++ " payload has no id"
  | .unmergeable kind id fault =>
    "Failed to merge " ++ kind.name ++ " " ++ id ++ ": " ++ fault.message

/-- Why a change to the board failed. -/
inductive SyncError where
  | api (error : ApiError)
  | input (fault : InputFault)
  | taskNotFound (id : String)
  | noOpenTask
  | refused (refusal : Refusal)
  deriving DecidableEq

namespace SyncError

/-- The message of a failure. -/
def message : SyncError → String
  | .api error => error.message
  | .input fault => fault.message
  | .taskNotFound id => "Task " ++ id ++ " not found"
  | .noOpenTask => "No task is open"
  | .refused refusal => refusal.message

/-- What lies beneath a failure, from the outermost cause. -/
def causes : SyncError → List String
  | .api error => error.causes
  -- The fault is named by the message as well, and still counts as its cause.
  | .refused (.unmergeable _ _ fault) => [fault.message]
  | .input _ | .taskNotFound _ | .noOpenTask | .refused (.missingId _) => []

end SyncError

end LiveBoard
