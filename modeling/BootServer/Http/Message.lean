import BootServer.Http.Header
import BootServer.Http.Status
import BootServer.Image.Source
import BootServer.Net.Address

/-!
Requests and responses. A response says how long its body is unless nobody made the body. What an
answer to `HEAD` has is the headers of the answer to `GET` and no body. A successful answer to
`CONNECT` has neither a body nor its length, since a tunnel would begin there.
-/
namespace BootServer.Http

inductive Method where
  | get
  | head
  | connect
  | other (name : String)
  deriving DecidableEq

def Method.ofName (name : String) : Method :=
  match name with
  | "GET" => .get
  | "HEAD" => .head
  | "CONNECT" => .connect
  | name => .other name

structure Request where
  method : Method
  /-- Path and query. -/
  target : String
  headers : Headers
  peer : IpAddress

/-- The path, up to the query or the fragment. -/
def Request.path (r : Request) : String :=
  String.ofList (r.target.toList.takeWhile fun c => c ≠ '?' && c ≠ '#')

structure Response where
  status : Status
  headers : Headers := []
  body : Image.Body := []

namespace Response

def lengthHeader (n : Nat) : Header := .of "content-length" (Text.Decimal.text n)

def typeHeader (type : String) : Header := .of "content-type" type

def plainText : String := "text/plain; charset=utf-8"

def octetStream : String := "application/octet-stream"

/-- A response whose body is at hand. -/
def whole (status : Status) (type : String) (body : Octets) : Response where
  status := status
  headers := [typeHeader type, lengthHeader body.length]
  body := [.ok body]

def text (status : Status) (s : String) : Response := whole status plainText (Octets.ofText s)

def withoutBody (r : Response) : Response := { r with body := [] }

def withoutLength (r : Response) : Response :=
  { r with headers := r.headers.filter (·.name ≠ "content-length") }

/-- The response as a request with that method gets it. -/
def answering (r : Response) (method : Method) : Response :=
  match method with
  | .head => r.withoutBody
  | .connect => if r.status.isSuccess then r.withoutBody.withoutLength else r
  | _ => r

end Response
end BootServer.Http
