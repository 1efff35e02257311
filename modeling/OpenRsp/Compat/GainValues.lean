import OpenRsp.Library.Doubles

/-!
# Gain values

`compat/gain_values.c`: the gain an application is told for a frequency, an
LNA state and a gain reduction, interpolated in a table of measurements.  The
tables are measured on one receiver; the interface refuses what they do not
cover.
-/

namespace OpenRsp

open Doubles

/-- `rspduo_gain_knot`; the list has an entry for each LNA state. -/
structure RspduoGainKnot where
  rfHz : Float
  maximum : Float32
  minimum : Float32
  lnaReduction : List Float32

/-- `gain_knots`. -/
def gainKnots : List RspduoGainKnot :=
  [⟨0, 68.6600037, (-30.6000004),
      [0.0, 6.0200049, 12.3100052, 18.640007, 36.9100037, 42.0700035, 60.2500038]⟩,
    ⟨1000, 68.6755066, (-30.5810013),
      [0.0, 6.0250092, 12.3150101, 18.6430054, 36.9165039, 42.0730057, 60.2565079]⟩,
    ⟨100000, 70.2100067, (-28.7000008),
      [0.0, 5.5300064, 11.8200073, 17.9500046, 36.5700073, 41.3800049, 59.9100075]⟩,
    ⟨1000000, 76.3600006, (-24.0),
      [0.0, 6.0299988, 12.8199997, 18.6500015, 37.8199997, 43.5800018, 61.3600006]⟩,
    ⟨5000000, 75.9749985, (-24.6049995),
      [0.0, 6.2900009, 13.2049942, 18.9449997, 38.2149964, 42.8199997, 61.579998]⟩,
    ⟨10000000, 75.0749969, (-26.1549988),
      [0.0, 6.5, 13.9149932, 19.7949981, 38.7149963, 43.5699958, 62.2299957]⟩,
    ⟨11999000, 74.3203735, (-26.3598976),
      [0.0, 6.4300308, 13.6401367, 19.4501648, 38.1702652, 43.3900871, 61.6802711]⟩,
    ⟨12000000, 75.1999969, (-26.2799988),
      [0.0, 6.8399963, 14.0199966, 19.8600006, 38.9399986, 43.5999984, 62.4799957]⟩,
    ⟨20000000, 75.2444458, (-26.2799988),
      [0.0, 6.7955551, 13.9488907, 19.8511124, 38.8511124, 43.5822258, 62.5244446]⟩,
    ⟨29999000, 74.7900543, (-26.2999954),
      [0.0, 6.4100494, 14.2199707, 20.0999756, 38.4100494, 43.140049, 62.0900497]⟩,
    ⟨30000000, 74.0999985, (-26.7700005),
      [0.0, 6.6899948, 13.4399948, 19.5599976, 38.4599991, 43.4899979, 61.869999]⟩,
    ⟨50000000, 73.1333313, (-29.1399994),
      [0.0, 7.0500031, 14.3966675, 20.3433304, 39.3933296, 44.5299988, 63.2733307]⟩,
    ⟨59999000, 71.5001602, (-31.4997635),
      [0.0, 7.2299805, 14.8699493, 20.8299484, 39.9199409, 45.0899429, 63.9999237]⟩,
    ⟨60000000, 101.410004, (-4.18000031),
      [0.0, 6.3000034, 13.2100071, 19.0900043, 24.8100055, 31.2300037,
        37.9800037, 43.8500064, 62.3400043, 66.5900043]⟩,
    ⟨80000000, 102.510002, (-3.1388855),
      [0.0, 5.877777, 12.7133406, 19.0077742, 24.9966658, 30.7577818,
        38.0222243, 43.8866652, 62.3877791, 66.6488875]⟩,
    ⟨100000000, 101.43, (-3.65444183),
      [0.0, 6.1488873, 12.9666669, 18.9588849, 24.3433301, 30.3888852,
        37.391113, 43.1933362, 61.7788884, 66.0844418]⟩,
    ⟨101100000, 101.370598, (-3.68279648),
      [0.0, 6.1637956, 12.9805986, 18.9561922, 24.3073961, 30.3685991,
        37.3563995, 43.1551971, 61.7453958, 66.0533945]⟩,
    ⟨119999000, 100.350052, (-4.16997147),
      [0.0, 6.419983, 13.2199861, 18.9099962, 23.6900254, 30.020012,
        36.7600328, 42.5000306, 61.1700288, 65.5200235]⟩,
    ⟨120000000, 102.68, (-3.09999847),
      [0.0, 6.5400006, 12.9800031, 19.2799985, 24.5699994, 30.5599973,
        37.1299969, 42.8600003, 61.3799969, 66.7799985]⟩,
    ⟨150000000, 102.110001, (-2.97999954),
      [0.0, 6.7300037, 13.4599995, 19.1999973, 24.6900028, 30.2399983,
        36.7300037, 42.3799976, 61.3899998, 66.0900005]⟩,
    ⟨200000000, 101.445717, (-2.47285843),
      [0.0, 6.2814332, 12.8128587, 18.5599977, 22.4571458, 29.1814348,
        35.7442857, 41.4442903, 59.9157182, 64.9185754]⟩,
    ⟨249999000, 98.9600525, (-3.77997208),
      [0.0, 6.3099976, 12.320015, 17.9100113, 22.0000153, 28.8600082,
        35.280014, 40.8300171, 59.280014, 63.7400246]⟩,
    ⟨250000000, 87.5500031, (-18.4399986),
      [0.0, 6.2100068, 12.4400025, 18.1100007, 22.5600052, 28.5699997,
        34.6700058, 40.3600007, 59.6800042, 66.9900017]⟩,
    ⟨299999000, 85.4400558, (-21.0799751),
      [0.0, 6.4199905, 12.3500137, 18.050003, 21.5700225, 28.4999923,
        34.9999847, 40.4899826, 59.7899932, 67.5200309]⟩,
    ⟨300000000, 85.3899994, (-20.3800011),
      [0.0, 6.0699997, 12.5999985, 18.2099991, 21.909996, 28.2200012,
        34.7600021, 40.3199997, 59.2999992, 66.7700005]⟩,
    ⟨350000000, 81.4574966, (-23.625),
      [0.0, 5.9349975, 12.6299972, 18.3174972, 21.5724945, 28.2249984,
        34.7999954, 40.4424972, 59.0749969, 66.0824966]⟩,
    ⟨379999000, 74.6602783, (-28.6798038),
      [0.0, 6.4099731, 13.2999649, 19.0499649, 22.4199524, 28.3399963,
        35.0499878, 40.7799873, 59.2299881, 64.3400821]⟩,
    ⟨380000000, 83.2300034, (-21.9799995),
      [0.0, 6.2200013, 12.8800049, 18.540001, 21.790001, 28.0100022,
        34.6300049, 40.2100068, 59.2900048, 66.2100029]⟩,
    ⟨400000000, 81.7200012, (-22.8033333),
      [0.0, 6.0766678, 12.6966705, 18.3400039, 21.3966675, 27.7400055,
        34.2933349, 39.9133339, 59.0600014, 65.5233345]⟩,
    ⟨419999000, 81.0600128, (-23.7699471),
      [0.0, 6.2199859, 13.0299682, 18.8399505, 21.7299652, 27.9699783,
        34.5399933, 40.3299637, 59.030014, 65.8299599]⟩,
    ⟨420000000, 99.5800018, (-7.38000107),
      [0.0, 7.800003, 14.2700042, 21.25, 22.6399994, 30.1300049,
        36.1399994, 42.9300003, 48.8400039, 67.9600029]⟩,
    ⟨500000000, 100.459999, (-5.22000122),
      [0.0, 7.7499999, 13.5599975, 20.4899978, 21.4799956, 28.9300002,
        35.1299972, 41.8799972, 47.6399993, 66.6800002]⟩,
    ⟨700000000, 98.7099991, (-6.15000153),
      [0.0, 7.7999954, 14.0, 20.7600022, 20.4700012, 28.4000015,
        34.5100022, 41.1200028, 46.8300018, 65.8600006]⟩,
    ⟨853863000, 95.7283096, (-9.07783127),
      [0.0, 7.6169967, 14.7331314, 21.6439666, 19.2830505, 27.0199585,
        33.8376007, 40.7860946, 46.8053665, 65.8061409]⟩,
    ⟨900000000, 95.2900009, (-9.47000122),
      [0.0, 7.8199997, 14.8899994, 21.9899978, 19.2000046, 26.9000015,
        33.5699997, 40.6200027, 46.75, 65.7600021]⟩,
    ⟨999999000, 91.4600372, (-10.519989),
      [0.0, 7.5800018, 14.1600036, 20.8400116, 17.3800125, 25.030014,
        31.5600204, 38.2800216, 44.3200226, 62.9800262]⟩,
    ⟨1000000000, 81.3399963, (-14.6399994),
      [0.0, 6.8699951, 13.7599945, 17.3399963, 24.2599945, 31.0599975,
        36.959999, 37.6099929, 56.9799957]⟩,
    ⟨1200000000, 84.4199982, (-11.2599983),
      [0.0, 7.3899994, 14.2999955, 16.8699951, 23.1199951, 29.949997,
        36.2699967, 37.4300003, 56.6799965]⟩,
    ⟨1500000000, 87.0722275, (-11.5900002),
      [0.0, 6.7522278, 13.8000107, 17.3422241, 24.5755615, 31.551117,
        37.6788941, 40.4044495, 59.6622277]⟩,
    ⟨1800000000, 88.0559998, (-12.4280014),
      [0.0, 6.5380021, 13.6299973, 17.142006, 24.2299958, 31.2099991,
        37.604004, 42.25, 61.4840012]⟩,
    ⟨2000000000, 75.8399963, (-18.5600014),
      [0.0, 6.6399994, 13.3699951, 15.6399994, 22.0, 28.6199951,
        34.909996, 36.2699966, 55.3999977]⟩]

/-- `high_impedance_gain_knots`. -/
def highImpedanceGainKnots : List RspduoGainKnot :=
  [⟨0, 89.2200012, 13.5199966,
      [0.0, 5.1900024, 10.9500046, 17.8800049, 36.7000046]⟩,
    ⟨1000, 89.2187042, 13.5182953, [0.0, 5.1909027, 10.9511108, 17.88031, 36.7004089]⟩,
    ⟨100000, 89.090004, 13.3499985, [0.0, 5.2800064, 11.0600052, 17.9100113, 36.7400055]⟩,
    ⟨1000000, 87.9199982, 11.8199997, [0.0, 6.0899964, 12.0499955, 18.1800003, 37.0999985]⟩,
    ⟨5000000, 85.3139954, 8.81999969, [0.0, 6.211998, 12.3659974, 18.4919968, 37.4939957]⟩,
    ⟨10000000, 83.8971405, 7.37571716, [0.0, 6.1942825, 12.2999954, 18.4914246, 37.5214233]⟩,
    ⟨11999000, 83.6486969, 7.21294403, [0.0, 6.1371765, 12.2000504, 18.4057541, 37.4357529]⟩,
    ⟨12000000, 83.6485748, 7.21286011, [0.0, 6.137146, 12.2000045, 18.4057159, 37.4357147]⟩,
    ⟨15000000, 83.7300034, 7.34500122, [0.0, 6.1350022, 12.1500016, 18.3625031, 37.3850022]⟩,
    ⟨20000000, 84.9599991, 7.55999756, [0.0, 6.5, 13.0899964, 19.2299957, 38.4000015]⟩,
    ⟨25000000, 81.2700043, 5.23999786, [0.0, 5.6000061, 11.8650055, 18.0149994, 37.0300064]⟩,
    ⟨29999000, 77.5807419, 2.92046356, [0.0, 4.7001877, 10.6402435, 16.8002472, 35.6602783]⟩,
    ⟨29999500, 77.580368, 2.92023087, [0.0, 4.7000885, 10.6401214, 16.8001251, 35.6601371]⟩]

/-- `sdrplay_api_GainValuesT`. -/
structure GainValues where
  curr : Float32
  max : Float32
  min : Float32
deriving DecidableEq, Repr

/-- `interpolate`. -/
def interpolate (low high : Float32) (fraction : Float) : Float32 :=
  (low.toFloat + (high.toFloat - low.toFloat) * fraction).toFloat32

/-- The loop that finds the knots on both sides of a frequency, `previous`
being the one looked at last. -/
def findKnots (lookupHz : Float) (previous : RspduoGainKnot) :
    List RspduoGainKnot → RspduoGainKnot × RspduoGainKnot
  | [] => (previous, previous)
  | knot :: knots =>
      if lookupHz == knot.rfHz then (knot, knot)
      else if lookupHz < knot.rfHz then (previous, knot)
      else findKnots lookupHz knot knots

/-- The knots on both sides of a frequency. -/
def bracketingKnots (lookupHz : Float) :
    List RspduoGainKnot → Option (RspduoGainKnot × RspduoGainKnot)
  | [] => none
  | knot :: knots => some (findKnots lookupHz knot (knot :: knots))

/-- `openrsp_rspduo_gain_values`. -/
def openrspRspduoGainValues (rfHz : Float) (lnaState : UInt8)
    (gainReductionDb minimumGainReductionDb : Int32)
    (highImpedanceInput : Bool) : Option GainValues :=
  if !rfHz.isFinite ∨ rfHz < 0.0 ∨ rfHz > 2000000000.0 ∨
      (minimumGainReductionDb ≠ 0 ∧ minimumGainReductionDb ≠ 20) ∨
      gainReductionDb < minimumGainReductionDb ∨ gainReductionDb > 59 then
    none
  else if highImpedanceInput ∧ rfHz ≥ 30000000.0 then
    if lnaState ≥ 5 then none else some ⟨0.0, 0.0, 0.0⟩
  else
    let lookupHz :=
      if highImpedanceInput ∨ rfHz < 1000.0 then rfHz
      else floor ((rfHz + 500.0) / 1000.0) * 1000.0
    let knots :=
      if highImpedanceInput then highImpedanceGainKnots else gainKnots
    match bracketingKnots lookupHz knots with
    | none => none
    | some (low, high) =>
        match low.lnaReduction[lnaState.toNat]?,
            high.lnaReduction[lnaState.toNat]? with
        | some lowReduction, some highReduction =>
            let fraction :=
              if low.rfHz == high.rfHz then 0.0
              else (lookupHz - low.rfHz) / (high.rfHz - low.rfHz)
            let calibratedMax := interpolate low.maximum high.maximum fraction
            let reduction := interpolate lowReduction highReduction fraction
            some
              { curr :=
                  calibratedMax - (Float.ofInt (gainReductionDb - 20).toInt).toFloat32 - reduction
                max := calibratedMax + (Float.ofInt (20 - minimumGainReductionDb).toInt).toFloat32
                min := interpolate low.minimum high.minimum fraction }
        | _, _ => none

end OpenRsp
