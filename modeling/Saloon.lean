import Saloon.Guarantees.AppointmentBills
import Saloon.Guarantees.CanonicalTokens
import Saloon.Guarantees.CartCharges
import Saloon.Guarantees.CartShown
import Saloon.Guarantees.ConcurrentBookings
import Saloon.Guarantees.ConcurrentExpenses
import Saloon.Guarantees.ConflictCheck
import Saloon.Guarantees.Directory
import Saloon.Guarantees.DrawerClose
import Saloon.Guarantees.Drawings
import Saloon.Guarantees.FirstAvailable
import Saloon.Guarantees.FirstRun
import Saloon.Guarantees.GoodsOut
import Saloon.Guarantees.Lifecycle
import Saloon.Guarantees.Listings
import Saloon.Guarantees.MobileSession
import Saloon.Guarantees.OffDuty
import Saloon.Guarantees.OnlineBookings
import Saloon.Guarantees.Passwords
import Saloon.Guarantees.RealSlots
import Saloon.Guarantees.RefusedBookings
import Saloon.Guarantees.Revenue
import Saloon.Guarantees.SwitchConverges
