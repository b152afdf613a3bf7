import ShowRemote.Url.File

/-!
Reading URLs, alone or as references to a base. Controls and spaces at the ends, and tabs and line
ends anywhere, do not count.
-/

set_option autoImplicit false

namespace ShowRemote.Url

def isSchemeChar (c : Char) : Bool :=
  c.isAlphanum || c = '+' || c = '-' || c = '.'

def splitScheme? (s : List Char) : Option (List Char × List Char) :=
  match Text.splitFirst? ':' s with
  | none => none
  | some (raw, rest) =>
    let scheme := withoutBreaks raw
    if scheme.head?.any Char.isAlpha && scheme.all isSchemeChar then
      some (Text.lowerAscii scheme, rest)
    else none

def fromScheme (base : Option Url) (scheme : List Char) (s : List Char) : Except UrlFault Url :=
  let text := withoutBreaks s
  match kindOf scheme with
  | .file => readFile (base.filter fun b => b.scheme = scheme) s
  | .web =>
    match base.filter fun b => b.scheme = scheme ∧ (text.takeWhile isSlash).length < 2 with
    | some b => b.relative text
    | none => fromAuthority scheme (text.dropWhile isSlash)
  | .other =>
    match text with
    | '/' :: '/' :: rest => fromAuthority scheme rest
    | '/' :: rest => .ok (withRest scheme none (fun p => .rooted (follow .other [] p)) rest)
    | _ => .ok (withRest scheme none (fun p => .text (escape controlSet p)) text)

def read (base : Option Url) (raw : List Char) : Except UrlFault Url :=
  let s := Text.trimEnds (fun c => c.toNat ≤ 0x20) raw
  match splitScheme? s with
  | some (scheme, rest) => fromScheme base scheme rest
  | none =>
    match base with
    | none => .error .relativeWithoutBase
    | some b =>
      let text := withoutBreaks s
      if text.head? = some '#' then .ok (b.withFragment text)
      else if b.isText then .error .relativeToText
      else if kindOf b.scheme = .file then readFile (some b) s
      else b.relative text

def parse (raw : List Char) : Except UrlFault Url :=
  read none raw

def join (base : Url) (reference : List Char) : Except UrlFault Url :=
  read (some base) reference

end ShowRemote.Url
