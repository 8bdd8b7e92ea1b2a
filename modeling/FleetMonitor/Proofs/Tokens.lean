import FleetMonitor.Proofs.Addresses

namespace FleetMonitor

namespace Address

open Text

-- What stands before the query of an address.
def path (cs : List Char) : List Char :=
  match cut? '?' cs with
  | some (before, _) => before
  | none             => cs

-- The parameters of an address, as they are written. The query goes from the first question mark to
-- the end; further question marks belong to it.
def parameters (cs : List Char) : List (List Char) :=
  match cut? '?' cs with
  | some (_, query) => splitOn '&' query
  | none            => []

variable {cs before query piece : List Char}

theorem path_of_not_mem (h : '?' ∉ cs) : path cs = cs := by
  rw [path, cut?_of_not_mem h]

theorem parameters_of_not_mem (h : '?' ∉ cs) : parameters cs = [] := by
  rw [parameters, cut?_of_not_mem h]

theorem path_append (h : '?' ∉ before) : path (before ++ '?' :: query) = before := by
  rw [path, cut?_append h]

theorem parameters_append (h : '?' ∉ before) :
    parameters (before ++ '?' :: query) = splitOn '&' query := by
  rw [parameters, cut?_append h]

-- Puts one more parameter at the end.
def extend (cs piece : List Char) : List Char :=
  cs ++ (if '?' ∈ cs then '&' else '?') :: piece

theorem path_extend : path (extend cs piece) = path cs := by
  by_cases h : '?' ∈ cs
  case pos =>
    obtain ⟨before, query, rfl, hb⟩ := List.eq_append_cons_of_mem h
    rw [extend, if_pos h, List.append_assoc, List.cons_append, path_append hb, path_append hb]
  case neg => rw [extend, if_neg h, path_append h, path_of_not_mem h]

-- An address without a query gets one, and a query that ends with a separator has an empty parameter
-- there, which stays.
theorem parameters_extend (hp : '&' ∉ piece) :
    parameters (extend cs piece) = parameters cs ++ [piece] := by
  by_cases h : '?' ∈ cs
  case pos =>
    obtain ⟨before, query, rfl, hb⟩ := List.eq_append_cons_of_mem h
    rw [extend, if_pos h, List.append_assoc, List.cons_append, parameters_append hb,
      parameters_append hb, splitOn_append, splitOn_of_not_mem hp]
  case neg =>
    rw [extend, if_neg h, parameters_append h, parameters_of_not_mem h, splitOn_of_not_mem hp,
      List.nil_append]

theorem not_mem_extend (hc : '#' ∉ cs) (hp : '#' ∉ piece) : '#' ∉ extend cs piece := by
  rw [extend, List.mem_append, List.mem_cons]
  rintro (h | h | h)
  · exact hc h
  · split at h <;> contradiction
  · exact hp h

end Address

namespace StreamRequest

open Address Percent Text

variable {endpoint token : String} {c : Char}

-- The parameter for a token.
def tokenParameter (token : String) : String :=
  "token=" ++ encode token

theorem toList_url : (url ⟨endpoint, some token⟩).toList =
    extend endpoint.toList (tokenParameter token).toList := by
  have hs : (if '?' ∈ endpoint.toList then "&" else "?").toList =
      [if '?' ∈ endpoint.toList then '&' else '?'] := by split <;> decide
  simp only [url, String.toList_append, hs, extend, tokenParameter, List.append_assoc,
    List.cons_append, List.nil_append]

theorem cut?_tokenParameter :
    cut? '=' (tokenParameter token).toList = some ("token".toList, (encode token).toList) := by
  have ht : "token=".toList = "token".toList ++ ['='] := by decide
  rw [tokenParameter, String.toList_append, ht, List.append_assoc]
  exact cut?_append (by decide)

theorem not_mem_tokenParameter (ht : c ∉ "token=".toList) (hp : c ≠ '%')
    (hc : isUnreserved c = false) : c ∉ (tokenParameter token).toList := by
  rw [tokenParameter, String.toList_append, List.mem_append]
  rintro (h | h)
  · exact ht h
  · exact encoded_encode.not_mem hp hc h

-- With a token the address has one parameter more than its endpoint, behind all others. That is
-- called `token`, and what it is decoded to is the token. Nothing follows the query as long as the
-- endpoint has no fragment, and without a token the address is the endpoint.
theorem token_is_one_more_parameter (endpoint token : String) (hf : '#' ∉ endpoint.toList) :
    url ⟨endpoint, none⟩ = endpoint ∧
    path (url ⟨endpoint, some token⟩).toList = path endpoint.toList ∧
    (∃ piece value,
      parameters (url ⟨endpoint, some token⟩).toList = parameters endpoint.toList ++ [piece] ∧
      cut? '=' piece = some ("token".toList, value) ∧
      (decode value).toByteArray = token.toUTF8) ∧
    '#' ∉ (url ⟨endpoint, some token⟩).toList := by
  have ha : '&' ∉ (tokenParameter token).toList :=
    not_mem_tokenParameter (by decide) (by decide) (by decide)
  have hh : '#' ∉ (tokenParameter token).toList :=
    not_mem_tokenParameter (by decide) (by decide) (by decide)
  rw [toList_url]
  exact ⟨rfl, path_extend, ⟨_, _, parameters_extend ha, cut?_tokenParameter, decode_encode⟩,
    not_mem_extend hf hh⟩

-- The query of the endpoint has a second question mark and an empty parameter at its end, and the
-- token has every character that could do harm.
theorem token_after_empty_parameter :
    '#' ∉ "/api/events?a?b=1&".toList ∧
    ∃ piece value,
      parameters (url ⟨"/api/events?a?b=1&", some "&x=1#?%"⟩).toList =
        ["a?b=1".toList, [], piece] ∧
      cut? '=' piece = some ("token".toList, value) ∧
      (decode value).toByteArray = "&x=1#?%".toUTF8 := by
  have hf : '#' ∉ "/api/events?a?b=1&".toList := by decide
  have hq : parameters "/api/events?a?b=1&".toList = ["a?b=1".toList, []] := by decide
  obtain ⟨_, _, ⟨piece, value, hp, hc, hv⟩, _⟩ :=
    token_is_one_more_parameter "/api/events?a?b=1&" "&x=1#?%" hf
  exact ⟨hf, piece, value, hp.trans (congrArg (· ++ [piece]) hq), hc, hv⟩

end StreamRequest
end FleetMonitor
