import Provisioning.Azure.Backend.Basic
import Provisioning.Azure.Provider.Basic
import Provisioning.Cache.Basic

/-!
The outside of the provider as one state: a backend, the store of machine records, the sizes that
were looked up, a clock, and a tape of random bytes. A program of the provider runs against it
request by request.
-/

namespace Provisioning.Azure

/-- How a backend makes clients and answers their calls. -/
structure Service (β : Type) where
  connect : Credentials → β → Except AzureError Unit × β
  call : Credentials → (c : Call) → β → Except AzureError c.Value × β

/-- The backend in memory, which gives everybody a client and lets all clients share its
resources. -/
def Backend.service : Service Backend where
  connect credentials b := (.ok (), b.connect credentials)
  call _ c b := b.serve c

/-- Sizes that were looked up. -/
abbrev SizeCache := Cache DiskSku.Key ResourceSku

structure World (β : Type) where
  backend : β
  store : Store
  sizes : SizeCache
  now : Nat
  entropy : List UInt8

namespace World

variable {β : Type}

/-- The length of the public key of a throwaway key. -/
def keyLength : Nat := 32

/-- The next bytes of the tape, zeros where it has ended. -/
def draw (w : World β) : List UInt8 :=
  (w.entropy ++ List.replicate keyLength 0).take keyLength

/-- Answers a request of the provider. Whoever recalls a size purges the cache first. -/
def serve (service : Service β) : (q : Request) → World β → q.Answer × World β
  | .connect credentials, w =>
      let (answer, backend) := service.connect credentials w.backend
      (answer, { w with backend })
  | .call credentials c, w =>
      let (answer, backend) := service.call credentials c w.backend
      (answer, { w with backend })
  | .commit machine edit, w =>
      let (answer, store) := w.store.commit machine edit
      (answer, { w with store })
  | .recallSize key, w =>
      let sizes := w.sizes.purge w.now
      (sizes.fresh? key w.now, { w with sizes })
  | .rememberSize key size, w => ((), { w with sizes := w.sizes.fill key size w.now })
  | .throwawayBytes, w => (w.draw, { w with entropy := w.entropy.drop keyLength })

/-- Runs a program to its end. -/
def run {α : Type} (service : Service β) (program : Asking α) (w : World β) : α × World β :=
  Program.run (serve service) program w

end World

end Provisioning.Azure
