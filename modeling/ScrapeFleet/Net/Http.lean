/-!
Requests over HTTP and what can come of them.
-/

namespace ScrapeFleet.Http

structure Request where
  method : String
  target : String
  /-- Fields with lowercase names. -/
  headers : List (String × String)
  body : ByteArray := .empty

def Request.line (r : Request) : String := r.method ++ " " ++ r.target ++ " HTTP/1.1"

inductive Exchange where
  | broken (reason : String)
  | timedOut
  | answered (status : Nat) (body : ByteArray)

def isSuccess (status : Nat) : Bool := 200 ≤ status && status < 300

end ScrapeFleet.Http
