import ShowRemote.Http.Base

/-!
A base of the web in the steps that it takes. The text of a path that does not end with a slash
gets one, and is read as a path again; then the query and the fragment are dropped.
-/

set_option autoImplicit false

namespace ShowRemote

namespace Url

def pathText (url : Url) : List Char :=
  url.path.write true

/-- The URL with the path that a text is read as. The marks in front of a query and a fragment are
characters of that path. -/
def withPath (url : Url) (s : List Char) : Url :=
  { url with path := readPath (kindOf url.scheme) (withoutBreaks s) }

end Url

namespace Http

def closePath (url : Url) : Url :=
  if url.pathText.getLast? = some '/' then url else url.withPath (url.pathText ++ ['/'])

def normalize (url : Url) : Url :=
  { closePath url with query := none, fragment := none }

end Http
end ShowRemote
