namespace Reconcile.Word

-- How many values words of 16, 32 and 64 bits have.
def count16 : Nat := 65536

def count32 : Nat := 4294967296

def count64 : Nat := 18446744073709551616

-- Signed words of 64 bits go from the opposite of this number up to below it.
def half64 : Nat := 9223372036854775808

end Reconcile.Word
