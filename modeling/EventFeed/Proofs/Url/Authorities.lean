import EventFeed.Proofs.Url.Domains
import EventFeed.Url.Basic

/-! # URLs with a plain host

A plain host needs no decoding. A URL is read once its authority is.
-/

namespace EventFeed.Url

open Domain (IsPlain encodedMark)

variable {cs : List Char}

theorem Percent.decode_of_not_mem (h : '%' ∉ cs) :
    Percent.decode cs = cs.flatMap String.utf8EncodeChar := by
  induction cs with
  | nil => simp [Percent.decode]
  | cons c rest ih =>
      simp only [List.mem_cons, not_or] at h
      rw [Percent.decode, ih h.2, List.flatMap_cons]
      intro a b after heq
      exact absurd heq.symm h.1

namespace Host

theorem parse_of_isPlain (h : ∀ c ∈ cs, IsPlain c) (hne : cs ≠ [])
    (hmark : ∀ part ∈ splitOn (· == '.') cs, encodedMark.isPrefixOf part = false) :
    Host.parse cs =
      if Ipv4.endsInNumber cs then Host.ipv4 <$> Ipv4.parse cs else .ok (.name cs) := by
  have hforbidden : ∀ c, Domain.isForbidden c = true → c ∉ cs := by
    intro c hc hmem
    have hallowed := (h c hmem).2.2
    rw [hc] at hallowed
    cases hallowed
  obtain ⟨c, rest, rfl⟩ := List.exists_cons_of_ne_nil hne
  have hbracket : (c :: rest).head? ≠ some '[' := by
    intro heq
    rw [List.head?_cons, Option.some.injEq] at heq
    exact hforbidden '[' (by decide) (heq ▸ List.mem_cons_self)
  rw [Host.parse, if_neg hbracket, Percent.decode_of_not_mem (hforbidden '%' (by decide)),
    Domain.toAscii?_of_isPlain h hmark]

end Host

variable {scheme : String} {hostText portText rest : List Char} {host : Host} {port : Option Nat}

/-- An authority that consists of a host and a port. -/
theorem parseAuthority_of_port (hspecial : isSpecial scheme = true)
    (huser : splitUserinfo true cs = (none, cs)) (htext : takeHost true false cs = hostText)
    (hne : hostText.isEmpty = false) (hhost : Host.parse hostText = .ok host)
    (hrest : cs.drop hostText.length = ':' :: portText)
    (hport : parsePort scheme portText = .ok (port, rest)) :
    parseAuthority scheme cs =
      .ok (host.text ++ (port.map fun n => ':' :: Nat.toDigits 10 n).getD [], rest) := by
  simp only [parseAuthority, hspecial, huser, htext, hne, hhost, hrest, hport]
  cases port <;> rfl

theorem parse_of_authority {s : String} {authority path : List Char}
    (hscheme : splitScheme? (significant s) = some (scheme, cs))
    (hspecial : isSpecial scheme = true)
    (hauthority : parseAuthority scheme (cs.dropWhile fun c => c == '/' || c == '\\') =
      .ok (authority, rest))
    (hpath : rest.takeWhile (fun c => c != '?' && c != '#') = path) :
    Url.parse s = .ok ⟨scheme, String.ofList
      (['/', '/'] ++ authority ++ pathText path ++ tailText (rest.drop path.length))⟩ := by
  subst hpath
  rw [Url.parse, hscheme]
  simp only [hspecial, if_true, parseSpecial, hauthority]
  rfl

end EventFeed.Url
