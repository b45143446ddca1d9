import ImageOwnership.Http.Message

/-!
Cookies in requests. Which cookies an answer leaves behind, to which addresses they go, and when they end,
is decided where they are kept; a client only asks what there is to say to an address. As soon as any
cookie is kept, the host of each address that is written to has to be told, as for an answer.
-/

namespace ImageOwnership.Http

/-- What the cookies that are kept say to an address, if they say anything to it; nothing when none are
kept. -/
abbrev Cookies := Option (Url → Option String)

/-- The headers of a request with the cookies for its address. A cookie header that was given stays. -/
def Headers.withCookies (cookies : Cookies) (url : Url) (headers : Headers) :
    Except Fault Headers :=
  match cookies with
  | none => .ok headers
  | some saying => do
      url.checkHost.mapError .host
      match saying url, headers.get? "cookie" with
      | some said, none =>
          let text ← (ascii (CodePoint.ofString said)).mapError .header
          return headers.set "cookie" text
      | _, _ => return headers

end ImageOwnership.Http
