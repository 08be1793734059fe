import AssessmentChat.Http.Exchange
import Mathlib.Logic.Basic
import Mathlib.Tactic.ByContra
import Mathlib.Tactic.SplitIfs

namespace AssessmentChat

/-!
# Which requests are sent

What is to be asked of an address is sent as a request exactly if the address is one of
the web that names a host, and if the token can stand in a header.  Otherwise it is said
why there is no request.
-/

namespace Url

/--
An address of the web that a request can be sent to: it names a host, in letters that may
stand in one, and is not too long.
-/
structure IsReachable (url : Url) : Prop where
  web : url.scheme = "http" ∨ url.scheme = "https"
  limit : url.text.utf8ByteSize < 65535
  host :
    ∃ host,
      url.host = some host ∧ host ≠ "" ∧
        ∀ letter ∈ host.toList,
          letter ∉ ['"', '\x60', '\x7b', '\x7d']

/-- An address names a host if its host is not empty. -/
theorem hasHost_iff
    {url : Url} :
    url.hasHost ↔ ∃ host, url.host = some host ∧ host ≠ "" := by
  rw [hasHost]
  cases url.host <;> simp

/-- An address that names a host can be sent to as far as its scheme and its text allow. -/
theorem isReachable_iff
    {url : Url}
    (named : url.hasHost) :
    url.IsReachable ↔
      (url.scheme = "http" ∨ url.scheme = "https") ∧ url.isSendable := by
  obtain ⟨host, found, isName⟩ := hasHost_iff.mp named
  have sendable :
      url.isSendable ↔
        url.text.utf8ByteSize < 65535 ∧
          ∀ letter ∈ host.toList,
            letter ∉ ['"', '\x60', '\x7b', '\x7d'] := by
    simp [isSendable, found]
  rw [sendable]
  constructor
  · rintro ⟨web, limit, other, foundToo, -, letters⟩
    cases found.symm.trans foundToo
    exact ⟨web, limit, letters⟩
  · rintro ⟨web, limit, letters⟩
    exact ⟨web, limit, host, found, isName, letters⟩

end Url

namespace Http

/-- What is to be asked of an address. -/
structure Errand where
  method : Method
  address : String
  token : Option String := none
  contentType : Option String := none
  body : ByteArray := .empty

/-- A header can hold a text that has no control characters but tabs. -/
def IsHeaderValue (text : String) : Prop :=
  ∀ letter ∈ text.toList,
    letter = '\t' ∨ (0x20 ≤ letter.toNat ∧ letter.toNat ≠ 0x7F)

/-- The values of the authorization header of a request to an address with a token. -/
def authorizationFor (address : Url) (token : Option String) : List String :=
  (address.credentials.map basic).toList ++ (token.map bearer).toList

namespace Errand

/-- The address of an errand is a text that spells one. -/
def LeadsTo (tables : Tables) (errand : Errand) (url : Url) : Prop :=
  Url.parse? tables.internationalName? errand.address = some url

/-- Every token of an errand can stand in a header. -/
def HasHeader (errand : Errand) : Prop :=
  ∀ token, errand.token = some token → IsHeaderValue token

/-- The request that is sent for an errand. -/
def Sends (tables : Tables) (errand : Errand) (request : Request) : Prop :=
  ∃ url,
    errand.LeadsTo tables url ∧ url.IsReachable ∧ errand.HasHeader ∧
      request =
        ⟨errand.method, url.text, authorizationFor url errand.token,
          errand.contentType, errand.body⟩

/-- Why no request is sent for an errand. -/
inductive Unsendable
    (tables : Tables)
    (errand : Errand) : String → Prop where
  | noAddress :
      (∀ url, ¬ errand.LeadsTo tables url) →
      Unsendable tables errand "builder error"
  | noHost
      {url : Url} :
      errand.LeadsTo tables url →
      (∀ host, url.host = some host → host = "") →
      Unsendable tables errand s!"builder error for url ({url.text})"
  | noHeader
      {url : Url}
      {host : String} :
      errand.LeadsTo tables url →
      url.host = some host →
      host ≠ "" →
      ¬ errand.HasHeader →
      Unsendable tables errand "builder error"
  | unreachable
      {url : Url}
      {host : String} :
      errand.LeadsTo tables url →
      url.host = some host →
      host ≠ "" →
      errand.HasHeader →
      ¬ url.IsReachable →
      Unsendable tables errand s!"builder error for url ({url.text})"

/-- The request for an errand, as it is built. -/
def build (tables : Tables) (errand : Errand) : Except Flaw Request :=
  Request.build tables errand.method errand.address errand.token
    errand.contentType errand.body

end Errand

/-! ## What is checked -/

/-- The check of a header value passes exactly for what a header can hold. -/
theorem isHeaderValue_iff
    {text : String} :
    isHeaderValue text ↔ IsHeaderValue text := by
  simp [isHeaderValue, IsHeaderValue]

/-- A token can stand in a header exactly if it can with its scheme before it. -/
theorem isHeaderValue_bearer
    (token : String) :
    isHeaderValue (bearer token) = isHeaderValue token := by
  rw [isHeaderValue, isHeaderValue, bearer, String.toList_append,
    List.all_append]
  rfl

/-- The header for a token passes exactly if the token can stand in one. -/
theorem Errand.hasHeader_iff
    {errand : Errand} :
    (errand.token.map bearer).all isHeaderValue ↔ errand.HasHeader := by
  rw [HasHeader]
  cases errand.token with
  | none =>
      simp
  | some token =>
      simp [isHeaderValue_bearer, isHeaderValue_iff]

/-! ## Building is deciding -/

namespace Errand

variable
  {tables : Tables}
  {errand : Errand}
  {url : Url}

/-- What is built for an address, by the three things that are checked in turn. -/
theorem build_of_leadsTo
    (leads : errand.LeadsTo tables url) :
    errand.build tables =
      if url.hasHost then
        if (errand.token.map bearer).all isHeaderValue then
          if (url.scheme = "http" ∨ url.scheme = "https") ∧
              url.isSendable then
            .ok
              ⟨errand.method, url.text, authorizationFor url errand.token,
                errand.contentType, errand.body⟩
          else .error (.unbuilt (some url.text))
        else .error (.unbuilt none)
      else .error (.unbuilt (some url.text)) := by
  have parsed :
      Url.parse? tables.internationalName? errand.address = some url :=
    leads
  rw [build, Request.build, parsed]
  grind [authorizationFor]

/-- Nothing is built for a text that is no address. -/
theorem build_of_noAddress
    (nowhere : ∀ url, ¬ errand.LeadsTo tables url) :
    errand.build tables = .error (.unbuilt none) := by
  have unparsed :
      Url.parse? tables.internationalName? errand.address = none :=
    Option.eq_none_iff_forall_ne_some.mpr nowhere
  rw [build, Request.build, unparsed]

/-- A request is built exactly if it can be sent, and as it is sent. -/
theorem build_eq_ok
    {request : Request} :
    errand.build tables = .ok request ↔ errand.Sends tables request := by
  constructor
  · intro built
    by_cases leads : ∃ url, errand.LeadsTo tables url
    · obtain ⟨url, leads⟩ := leads
      rw [build_of_leadsTo leads] at built
      split_ifs at built with named header reachable
      cases built
      exact ⟨url, leads, (Url.isReachable_iff named).mpr reachable,
        hasHeader_iff.mp header, rfl⟩
    · rw [build_of_noAddress (not_exists.mp leads)] at built
      cases built
  · rintro ⟨url, leads, reachable, header, rfl⟩
    have named : url.hasHost := by
      obtain ⟨host, found, isName, -⟩ := reachable.host
      exact Url.hasHost_iff.mpr ⟨host, found, isName⟩
    rw [build_of_leadsTo leads, if_pos named,
      if_pos (hasHeader_iff.mpr header),
      if_pos ((Url.isReachable_iff named).mp reachable)]

/-- What cannot be built cannot be sent, for that reason. -/
theorem unsendable_of_build
    {flaw : Flaw}
    (built : errand.build tables = .error flaw) :
    errand.Unsendable tables flaw.message := by
  by_cases leads : ∃ url, errand.LeadsTo tables url
  · obtain ⟨url, leads⟩ := leads
    rw [build_of_leadsTo leads] at built
    split_ifs at built with named header reachable
    · cases built
      obtain ⟨host, found, isName⟩ := Url.hasHost_iff.mp named
      exact .unreachable leads found isName (hasHeader_iff.mp header)
        (mt (Url.isReachable_iff named).mp reachable)
    · cases built
      obtain ⟨host, found, isName⟩ := Url.hasHost_iff.mp named
      exact .noHeader leads found isName (mt hasHeader_iff.mpr header)
    · cases built
      refine .noHost leads fun host found => ?_
      by_contra isName
      exact named (Url.hasHost_iff.mpr ⟨host, found, isName⟩)
  · rw [build_of_noAddress (not_exists.mp leads)] at built
    cases built
    exact .noAddress (not_exists.mp leads)

/-- A request cannot be built exactly if it cannot be sent, and for that reason. -/
theorem build_eq_error
    {cause : String} :
    (∃ flaw, errand.build tables = .error flaw ∧ flaw.message = cause) ↔
      errand.Unsendable tables cause := by
  constructor
  · rintro ⟨flaw, built, rfl⟩
    exact unsendable_of_build built
  · intro unsendable
    cases unsendable with
    | noAddress nowhere =>
        exact ⟨_, build_of_noAddress nowhere, rfl⟩
    | @noHost url leads unnamed =>
        have notNamed : ¬ url.hasHost := by
          intro named
          obtain ⟨host, found, isName⟩ := Url.hasHost_iff.mp named
          exact isName (unnamed host found)
        refine ⟨.unbuilt (some url.text), ?_, rfl⟩
        rw [build_of_leadsTo leads, if_neg notNamed]
    | noHeader leads found isName noHeader =>
        have named := Url.hasHost_iff.mpr ⟨_, found, isName⟩
        refine ⟨.unbuilt none, ?_, rfl⟩
        rw [build_of_leadsTo leads, if_pos named,
          if_neg (mt hasHeader_iff.mp noHeader)]
    | @unreachable url host leads found isName header unreachable =>
        have named := Url.hasHost_iff.mpr ⟨host, found, isName⟩
        refine ⟨.unbuilt (some url.text), ?_, rfl⟩
        rw [build_of_leadsTo leads, if_pos named,
          if_pos (hasHeader_iff.mpr header),
          if_neg (mt (Url.isReachable_iff named).mpr unreachable)]

end Errand

end Http

end AssessmentChat
