import SandboxManager.Json

/-! Error codes and what the app is told of them (`sandbox_error.h`, the response codes of
`sandbox_socket.h`, `sandbox_response.cpp`).

An internal error reaches the app as a response code, through a table; only a partial
policy result carries a body besides, and `buildAddPolicyResult` is that body. -/
namespace SandboxManager.Claw

inductive SandboxError where
  | SUCCESS
  | ERR_GENERIC
  | ERR_BAD_PARAMETERS
  | ERR_CMD_INVALID
  | ERR_CONFIG_INVALID
  | ERR_TEMPLATE_INVALID
  | ERR_PATH_EXISTS
  | ERR_PATH_CREATE_FAILED
  | ERR_PATH_INVALID
  | ERR_NS_FAILED
  | ERR_MOUNT_FAILED
  | ERR_UMOUNT_FAILED
  | ERR_CHDIR_FAILED
  | ERR_SET_TOKENID_FAILED
  | ERR_SET_UGID_FAILED
  | ERR_SET_SECCOMP_FAILED
  | ERR_SET_SELINUX_FAILED
  | ERR_SET_CAP_FAILED
  | ERR_SANDBOX_PATH_EXHAUSTED
  | ERR_GEN_TOKENID_FAILED
  | ERR_SET_PRCTL_FAILED
  | ERR_SET_POLICY_FAILED
  | ERR_SET_PTOKENID_FAILED
  | ERR_SYMLINK_FAILED
  | ERR_SET_AINFO_FAILED
  | ERR_SET_XPM_FAILED
  | ERR_SET_DEC_FAILED
  | ERR_SET_ENCAPS_FAILED
  | ERR_SOCKET_CLOSED
  | ERR_SOCKET_IO
  | ERR_SOCKET_WOULD_BLOCK
  | ERR_SOCKET_MSG_TOO_LARGE
  | ERR_SOCKET_TX_FULL
  | ERR_SOCKET_PROTOCOL
  | ERR_SOCKET_CREATE_FAILED
  | ERR_SOCKET_CONNECT_FAILED
  | ERR_SOCKET_CONNECT_TIMEOUT
  | ERR_REQUEST_ID_INVALID
  | ERR_DEVICE_OPEN_FAILED
  | ERR_DEVICE_IO
  | ERR_DEVICE_BUSY
  | ERR_DATA_CORRUPT
  | ERR_EVENT_FIELD_INVALID
  | ERR_CHILD_WATCH_FAILED
  | ERR_CHILD_WAIT_FAILED
  | ERR_EPOLL_FAILED
  | ERR_MONITOR_DEGRADED
  | ERR_MONITOR_STOPPED
  | ERR_EVENT_ANSWER_INVALID
  | ERR_EVENT_UNKNOWN
  | ERR_SET_POLICY_PARTIAL
deriving DecidableEq, Repr

/-! ### Response codes -/

def RESPONSE_CODE_PREFIX : UInt32 := 0xFFFF0000
def RESPONSE_CODE_CATEGORY_SHIFT : UInt32 := 8

def makeResponseCode (category index : UInt32) : Int32 :=
  (RESPONSE_CODE_PREFIX ||| category <<< RESPONSE_CODE_CATEGORY_SHIFT ||| index).toInt32

def RSP_OK : Int32 := 0
def RSP_BAD_REQUEST : Int32 := makeResponseCode 0x01 0x01
def RSP_BAD_REQUEST_ID : Int32 := makeResponseCode 0x01 0x02
def RSP_UNSUPPORTED_TYPE : Int32 := makeResponseCode 0x01 0x03
def RSP_BODY_TOO_LARGE : Int32 := makeResponseCode 0x01 0x04
def RSP_UNKNOWN_EVENT : Int32 := makeResponseCode 0x02 0x01
def RSP_UNAVAILABLE : Int32 := makeResponseCode 0x02 0x02
def RSP_BUSY : Int32 := makeResponseCode 0x03 0x01
def RSP_INTERNAL : Int32 := makeResponseCode 0x04 0x01
def RSP_PARTIAL : Int32 := makeResponseCode 0x05 0x01

def RESPONSE_CODE_TABLE : List (SandboxError × Int32) :=
  [(.SUCCESS, RSP_OK),
   (.ERR_REQUEST_ID_INVALID, RSP_BAD_REQUEST_ID),
   (.ERR_SOCKET_PROTOCOL, RSP_UNSUPPORTED_TYPE),
   (.ERR_EVENT_ANSWER_INVALID, RSP_BAD_REQUEST),
   (.ERR_CONFIG_INVALID, RSP_BAD_REQUEST),
   (.ERR_SOCKET_MSG_TOO_LARGE, RSP_BODY_TOO_LARGE),
   (.ERR_EVENT_UNKNOWN, RSP_UNKNOWN_EVENT),
   (.ERR_MONITOR_DEGRADED, RSP_UNAVAILABLE),
   (.ERR_DEVICE_BUSY, RSP_BUSY),
   (.ERR_SET_POLICY_PARTIAL, RSP_PARTIAL)]

/-- An error the table does not list is an internal one. -/
def toResponseCode (internalError : SandboxError) : Int32 :=
  match RESPONSE_CODE_TABLE.find? fun entry => entry.1 = internalError with
  | some entry => entry.2
  | none => RSP_INTERNAL

/-! ### The body of a partial result -/

inductive PolicyScopeType where
  | GLOBAL
  | SPECIFIC_USER
  | SPECIFIC_APP
  | SELF_APP
  | SPECIFIC_TASK
  | SELF_TASK
  | SELF_SESSION
deriving DecidableEq, Repr

inductive PolicyOpType where
  | NETWORK
  | FILE
  | PROCESS
deriving DecidableEq, Repr

def policyScopeName : PolicyScopeType → Bytes
  | .GLOBAL => bytes "global"
  | .SPECIFIC_USER => bytes "specific_user"
  | .SPECIFIC_APP => bytes "specific_app"
  | .SELF_APP => bytes "self_app"
  | .SPECIFIC_TASK => bytes "specific_task"
  | .SELF_TASK => bytes "self_task"
  | .SELF_SESSION => bytes "self_session"

def policyModuleName : PolicyOpType → Bytes
  | .NETWORK => bytes "network"
  | .FILE => bytes "file"
  | .PROCESS => bytes "process"

/-- One reason a policy was rejected. -/
structure PolicyError where
  reason : Bytes
  operation : Bytes
  object : Bytes
  detail : Bytes
  actions : List Bytes

structure PolicyModuleResult where
  module : PolicyOpType
  result : SandboxError
  detail : Bytes

/-- One rule group's outcome. -/
structure PolicyScopeResult where
  scope : PolicyScopeType
  errors : List PolicyError
  delivered : List PolicyModuleResult

def MAX_RESPONSE_ERROR_COUNT : Nat := 64
def SANDBOX_RESPONSE_BODY_VERSION : Nat := 1
def SANDBOX_RESPONSE_TYPE_ADD_POLICY : Bytes := bytes "add_policy_result"

def addString (name : String) (value : Bytes) : List (Bytes × Json) :=
  [(bytes name, .string (cStr value))]

/-- A field that does not apply is left out. -/
def addOptionalString (name : String) (value : Bytes) : List (Bytes × Json) :=
  if value = [] then [] else addString name value

def addNumber (name : String) (value : Int) : List (Bytes × Json) :=
  [(bytes name, .number (bytes (toString value)))]

def buildPolicyErrorJson (error : PolicyError) : Json :=
  .object (addString "reason" error.reason ++ addOptionalString "operation" error.operation ++
    addOptionalString "object" error.object ++ addOptionalString "detail" error.detail ++
    if error.actions = [] then []
    else [(bytes "actions", .array (error.actions.map fun action => .string (cStr action)))])

def deliveredJson (entry : PolicyModuleResult) : Json :=
  .object (addString "module" (policyModuleName entry.module) ++
    addNumber "result" (toResponseCode entry.result).toInt ++
    addOptionalString "detail" entry.detail)

/-- One rule group. The array of errors is hung in first and filled later. -/
def buildScopeResultJson (result : PolicyScopeResult) : Json :=
  let reported := min result.errors.length MAX_RESPONSE_ERROR_COUNT
  .object ([(bytes "errors", .array ((result.errors.take reported).map buildPolicyErrorJson))] ++
    addString "scope" (policyScopeName result.scope) ++
    [(bytes "truncated", .bool (reported < result.errors.length))] ++
    [(bytes "delivered", .array (result.delivered.map deliveredJson))])

/-- The tree `BuildAddPolicyResult` prints. -/
def addPolicyResultJson (results : List PolicyScopeResult) : Json :=
  .object ([(bytes "groups", .array (results.map buildScopeResultJson))] ++
    addString "type" SANDBOX_RESPONSE_TYPE_ADD_POLICY ++
    addNumber "version" SANDBOX_RESPONSE_BODY_VERSION)

/-- `ResponseBody::BuildAddPolicyResult`, for a given printer. -/
def buildAddPolicyResult (printUnformatted : Json → Bytes) (results : List PolicyScopeResult) :
    Bytes :=
  printUnformatted (addPolicyResultJson results)

end SandboxManager.Claw
