import Saloon.Lib.Query
import Saloon.Source.Session

/-!
# Services and products

`models/Service.php:6-40`, `models/Product.php:6-18`, and the product statements of
`InventoryController` (`controllers/InventoryController.php:27-89`). Every statement
here is an autocommit of its own.
-/
namespace Saloon.Source

open Lib

namespace Service

def create (name description : Val) (durationMins : Int) (price : Rat) (category : Val) : Sql Nat :=
  fun db =>
    (.ok db.services.nextId,
      db.setServices (db.services.insert
        ⟨name.strval, description.strval, durationMins, price, category.strval⟩))

def update (id : Int) (name description : Val) (durationMins : Int) (price : Rat)
    (category : Val) : Sql Unit :=
  .update fun db => db.setServices (db.services.modify (byId (.num id)) fun _ =>
    ⟨name.strval, description.strval, durationMins, price, category.strval⟩)

def entry (r : Row Service) : Val :=
  .arr [("id", .int r.id), ("name", .str r.cols.name), ("description", .str r.cols.description),
    ("duration_mins", .int r.cols.durationMins), ("price", .float r.cols.price),
    ("category", .str r.cols.category)]

/-- `SELECT * FROM services ORDER BY category ASC, name ASC`. -/
def getAll (db : Db) : List Val :=
  (orderBy (compareLex (compareOn fun r => r.cols.category) (compareOn fun r => r.cols.name))
    db.services.rows).map entry

end Service

namespace Product

/-- `InventoryController::addProduct`, the INSERT. -/
def create (name description : Val) (price stockQuantity : Rat) (category : Val)
    (minStockAlert : Rat) : Sql Nat := fun db =>
  (.ok db.products.nextId,
    db.setProducts (db.products.insert
      ⟨name.strval, description.strval, price, stockQuantity, category.strval, minStockAlert⟩))

def addStock (quantity : Rat) (p : Product) : Product :=
  { p with stockQuantity := p.stockQuantity + quantity }

/-- `InventoryController::updateStock`, the UPDATE. -/
def updateStock (id : Val) (quantity : Rat) : Sql Unit :=
  .update fun db => db.setProducts (db.products.modify (byId id.key) (addStock quantity))

def entry (r : Row Product) : Val :=
  .arr [("id", .int r.id), ("name", .str r.cols.name), ("description", .str r.cols.description),
    ("price", .float r.cols.price), ("stock_quantity", .float r.cols.stockQuantity),
    ("category", .str r.cols.category), ("min_stock_alert", .float r.cols.minStockAlert)]

/-- `SELECT * FROM products ORDER BY category ASC, name ASC`. -/
def getAll (db : Db) : List Val :=
  (orderBy (compareLex (compareOn fun r => r.cols.category) (compareOn fun r => r.cols.name))
    db.products.rows).map entry

/-- `WHERE stock_quantity <= min_stock_alert ORDER BY stock_quantity ASC`. -/
def getLowStockAlerts (db : Db) : List Val :=
  (orderBy (compareOn fun r => r.cols.stockQuantity)
    (db.products.rows.filter fun r => r.cols.stockQuantity ≤ r.cols.minStockAlert)).map entry

end Product

end Saloon.Source
