import BuildOperator.Failure
import BuildOperator.Json.Decode
import BuildOperator.Json.Reader
/-!
# Responses

What comes back for a request: an error of the transport, or a status with a body. A body that
explains a refusal decides over its code; where none does, the status line stands in for it.
-/
namespace BuildOperator.Api

inductive Response where
  | received (status : UInt16) (body : String)
  | lost (message : String)
  deriving DecidableEq

/-- The registered phrases of status codes. -/
def phrases : List (Nat × String) :=
  [(100, "Continue"), (101, "Switching Protocols"), (102, "Processing"), (200, "OK"),
    (201, "Created"), (202, "Accepted"), (203, "Non Authoritative Information"),
    (204, "No Content"), (205, "Reset Content"), (206, "Partial Content"), (207, "Multi-Status"),
    (208, "Already Reported"), (226, "IM Used"), (300, "Multiple Choices"),
    (301, "Moved Permanently"), (302, "Found"), (303, "See Other"), (304, "Not Modified"),
    (305, "Use Proxy"), (307, "Temporary Redirect"), (308, "Permanent Redirect"),
    (400, "Bad Request"), (401, "Unauthorized"), (402, "Payment Required"), (403, "Forbidden"),
    (404, "Not Found"), (405, "Method Not Allowed"), (406, "Not Acceptable"),
    (407, "Proxy Authentication Required"), (408, "Request Timeout"), (409, "Conflict"),
    (410, "Gone"), (411, "Length Required"), (412, "Precondition Failed"),
    (413, "Payload Too Large"), (414, "URI Too Long"), (415, "Unsupported Media Type"),
    (416, "Range Not Satisfiable"), (417, "Expectation Failed"), (418, "I'm a teapot"),
    (421, "Misdirected Request"), (422, "Unprocessable Entity"), (423, "Locked"),
    (424, "Failed Dependency"), (425, "Too Early"), (426, "Upgrade Required"),
    (428, "Precondition Required"), (429, "Too Many Requests"),
    (431, "Request Header Fields Too Large"), (451, "Unavailable For Legal Reasons"),
    (500, "Internal Server Error"), (501, "Not Implemented"), (502, "Bad Gateway"),
    (503, "Service Unavailable"), (504, "Gateway Timeout"), (505, "HTTP Version Not Supported"),
    (506, "Variant Also Negotiates"), (507, "Insufficient Storage"), (508, "Loop Detected"),
    (510, "Not Extended"), (511, "Network Authentication Required")]

def statusLine (status : UInt16) : String :=
  toString status.toNat ++ " " ++ (phrases.lookup status.toNat).getD "<unknown status code>"

def refusalShape : Decode.Shape := ⟨"ErrorResponse", 4⟩

def refusalOfMembers (o : List (String × Json)) : Except DecodeError Refusal := do
  let code ← Decode.present o "code" Decode.uint16
  let message ← Decode.present o "message" Decode.string
  let reason ← Decode.present o "reason" Decode.string
  let status ← Decode.present o "status" Decode.string
  let status ← Decode.required "status" status
  let code ← Decode.required "code" code
  return ⟨status, message.getD "", reason.getD "", code⟩

def refusalOfItems (items : List Json) : Except DecodeError Refusal := do
  let status ← Decode.item refusalShape items 0 Decode.string
  let message ← Decode.itemOr "" items 1 Decode.string
  let reason ← Decode.itemOr "" items 2 Decode.string
  let code ← Decode.item refusalShape items 3 Decode.uint16
  return ⟨status, message, reason, code⟩

def refusalOfJson : Decoder Refusal := Decode.struct refusalShape refusalOfMembers refusalOfItems

/-- What is read of a refusal. -/
def refusalOutline : Json.Outline := .flat true ["status", "message", "reason", "code"]

/-- The refusal that a body explains. -/
def refusalOfText? (body : String) : Option Refusal := do
  (refusalOfJson (← Json.excerptOfText? refusalOutline body).canonical).toOption

/-- The refusal of a response with that status and body. -/
def refusal (status : UInt16) (body : String) : Refusal :=
  (refusalOfText? body).getD {
    status := statusLine status
    message := Text.quoted body
    reason := "Failed to parse error data"
    code := status }

/-- The body of a response that is no failure. -/
def Response.body : Response → Except ApiFailure String
  | .received status body =>
    if 400 ≤ status ∧ status < 600 then .error (.refused (refusal status body)) else .ok body
  | .lost message => .error (.service message)

end BuildOperator.Api
