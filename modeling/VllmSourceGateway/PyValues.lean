import Mathlib
import VllmSourceGateway.PyDict
import VllmSourceGateway.PyText

set_option autoImplicit false

/-! Decoded JSON, the exception classes the gateway's `except` clauses tell
apart, and the code it calls that is not its own. -/
namespace VllmSourceGateway.PyValues
open PyText

/-- A binary floating-point number, `±mantissa * 2 ^ exponent` when finite. -/
inductive PyFloat where
  | finite (negative : Bool) (mantissa : ℕ) (exponent : ℤ)
  | infinity (negative : Bool)
  | nan
  deriving DecidableEq

inductive Json where
  | null
  | bool (b : Bool)
  | int (n : ℤ)
  | float (x : PyFloat)
  | str (s : String)
  | arr (items : List Json)
  | obj (fields : List (String × Json))

abbrev JsonObject := List (String × Json)

/-- What `isinstance(v, int)` lets through: `bool` is a subclass of `int`. -/
inductive PyInt where
  | int (n : ℤ)
  | bool (b : Bool)
  deriving DecidableEq

def PyInt.value : PyInt → ℤ
  | .int n => n
  | .bool b => if b then 1 else 0

def Json.asInt? : Json → Option PyInt
  | .int n => some (.int n)
  | .bool b => some (.bool b)
  | _ => none

/-- `v == 1`, which also holds of `True` and `1.0`. -/
def Json.equalsOne : Json → Bool
  | .int n => n == 1
  | .bool b => b
  | .float (.finite false mantissa exponent) => (mantissa : ℚ) * 2 ^ exponent == 1
  | _ => false

/-- The classes below `httpx.HTTPError` that matter here; `timeout` stands for
the read, write and pool timeouts, `transport` for everything else. -/
inductive HttpxError where
  | connectError
  | connectTimeout
  | timeout
  | transport
  deriving DecidableEq

def HttpxError.isTimeout : HttpxError → Bool
  | .connectTimeout | .timeout => true
  | .connectError | .transport => false

structure HttpException where
  statusCode : ℕ
  detail : String
  retryAfter : Option ℤ
  deriving DecidableEq

inductive Exn where
  | http (e : HttpException)
  | httpx (e : HttpxError)
  | cancelled
  | jsonDecode
  | value
  | attribute
  | other
  deriving DecidableEq

/-- `isinstance(e, Exception)`: `CancelledError` derives from `BaseException` only. -/
def Exn.isException : Exn → Bool
  | .cancelled => false
  | _ => true

def Exn.isHttpxError : Exn → Bool
  | .httpx _ => true
  | _ => false

/-- How `json.loads` fails: on the text, with another `ValueError` (undecodable
bytes, an integer of too many digits), or otherwise (nesting too deep). -/
inductive LoadsError where
  | jsonDecode
  | value
  | other
  deriving DecidableEq

def LoadsError.exn : LoadsError → Exn
  | .jsonDecode => .jsonDecode
  | .value => .value
  | .other => .other

def LoadsError.isValueError : LoadsError → Bool
  | .jsonDecode | .value => true
  | .other => false

/-- `json.loads` on text and on bytes, whether Starlette's `Response` (of a
status and a media type) and `StreamingResponse` (of a status and headers)
can be constructed, and which amounts a Prometheus counter takes: it holds a
float, and adding an `int` that is too large for one raises. -/
structure Platform where
  loads : Text → Except LoadsError Json
  loadsBytes : List UInt8 → Except LoadsError Json
  responseInit : ℕ → Option String → Bool
  streamingResponseInit : ℕ → List (String × String) → Bool
  counterAccepts : ℤ → Bool

end VllmSourceGateway.PyValues
