import Mathlib.Data.List.Basic

/-!
# Requests and replies under way

A reader puts requests in a queue, a server takes them in order, and its replies come back in
order. When a server's state decides what it does, what the reader will come to is decided as
well: serving a request and reading a reply do not change it (`outlook_serve`,
`outlook_tell`), and a new request adds its own replies to those that are to be read
(`outstanding_ask`).
-/

namespace Fifo
set_option autoImplicit false

/-- A server: its state after a request, and what it replies. -/
structure Server (σ α β : Type) where
  next : σ → α → σ
  replies : σ → α → List β

/-- Where the server, the two queues and the reader stand. -/
structure Line (σ α β γ : Type) where
  server : σ
  asked : List α
  told : List β
  reader : γ

section
variable {σ α β γ : Type} (S : Server σ α β)

namespace Server

/-- The state after a queue of requests. -/
def final : σ → List α → σ
  | s, [] => s
  | s, a :: as => final (S.next s a) as

/-- The replies to a queue of requests. -/
def coming : σ → List α → List β
  | _, [] => []
  | s, a :: as => S.replies s a ++ coming (S.next s a) as

theorem final_concat (s : σ) (as : List α) (a : α) : S.final s (as ++ [a]) = S.next (S.final s as) a := by
  induction as generalizing s with
  | nil => rfl
  | cons b as ih => exact ih (S.next s b)

theorem coming_concat (s : σ) (as : List α) (a : α) :
    S.coming s (as ++ [a]) = S.coming s as ++ S.replies (S.final s as) a := by
  induction as generalizing s with
  | nil => exact List.append_nil _
  | cons b as ih =>
    simp only [List.cons_append, coming, final, List.append_assoc]
    rw [ih]

end Server

/-- The replies that are still to be read. -/
def outstanding (line : Line σ α β γ) : List β := line.told ++ S.coming line.server line.asked

/-- The reader when it has read them. -/
def outlook (tell : γ → β → γ) (line : Line σ α β γ) : γ := (outstanding S line).foldl tell line.reader

theorem outstanding_ask {s : σ} {as : List α} {told : List β} {reader reader' : γ} (a : α) :
    outstanding S ⟨s, as ++ [a], told, reader'⟩ =
      outstanding S ⟨s, as, told, reader⟩ ++ S.replies (S.final s as) a := by
  simp only [outstanding, Server.coming_concat, List.append_assoc]

variable {S} {tell : γ → β → γ}

theorem outlook_serve {s s' : σ} {a : α} {as : List α} {told replies : List β} {reader : γ}
    (next : s' = S.next s a) (replied : replies = S.replies s a) :
    outlook S tell ⟨s', as, told ++ replies, reader⟩ = outlook S tell ⟨s, a :: as, told, reader⟩ := by
  subst next replied
  simp only [outlook, outstanding, Server.coming, List.append_assoc]

theorem outlook_tell {s : σ} {as : List α} {b : β} {told : List β} {reader : γ} :
    outlook S tell ⟨s, as, told, tell reader b⟩ = outlook S tell ⟨s, as, b :: told, reader⟩ := rfl

end

end Fifo
