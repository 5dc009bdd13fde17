import Settlement.Activity

/-!
Which bank account an address is linked to. The registration created last decides, be
it among all or among the active ones; an empty address is linked to none.
-/

namespace Settlement.Directory

def resolve (address : String) : Activity Store.Fault (Option Uuid) :=
  if address.isEmpty then pure none
  else do
    let registration ← Activity.storage id (.registration address)
    return registration.map Store.Registration.bankAccount

def resolveActive (address : String) : Activity Store.Fault (Option Uuid) :=
  if address.isEmpty then pure none
  else do
    let registration ← Activity.storage id (.activeRegistration address)
    return registration.map Store.Registration.bankAccount

end Settlement.Directory
