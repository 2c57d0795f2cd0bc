/-!
# `Http` · Responses

What a client gets: a status, a body, and the two headers that say where to go or what the body is.

* **Pages** are HTML, other texts are plain.
* **Redirects** have a target and no body. A target that no header can hold is reported in the body
  instead.
-/

namespace TemplateEngine.Http

/-- The response to a request. -/
structure Response where
  /-- The status. -/
  status : Nat
  /-- Where to go. -/
  location : Option String
  /-- What the body is. -/
  contentType : Option String
  /-- The body. -/
  body : String
  deriving Repr, DecidableEq, Inhabited

namespace Response

/-- A plain text. -/
def plain (status : Nat) (body : String) : Response :=
  ⟨status, none, some "text/plain; charset=utf-8", body⟩

/-- A page. -/
def html (body : String) : Response := ⟨200, none, some "text/html; charset=utf-8", body⟩

/-- A response without a body. -/
def bare (status : Nat) : Response := ⟨status, none, none, ""⟩

/-- A character that the value of a header may hold. -/
def isHeaderChar (c : Char) : Bool := c == '\t' || (32 ≤ c.toNat && c.toNat != 127)

/-- A redirect. -/
def redirect (target : String) : Response :=
  if target.toList.all isHeaderChar then ⟨302, some target, none, ""⟩
  else plain 302 "failed to parse header value"

end Response

end TemplateEngine.Http
