/-!
# Names of flags

Each name stands before the two letters of its country or region. Several names may stand for one flag.
-/

namespace ImportChart.Markup.Emoji

/-- Names of flags with the letters of their countries and regions. -/
def flagNames : String := "
    afghanistan AF albania AL algeria DZ american_samoa AS andorra AD angola AO anguilla AI antarctica AQ
    antigua_&_barbuda AG argentina AR armenia AM aruba AW ascension_island AC australia AU austria AT azerbaijan AZ
    bahamas BS bahrain BH bangladesh BD barbados BB belarus BY belgium BE belize BZ benin BJ bermuda BM bhutan BT
    bolivia BO bosnia_&_herzegovina BA botswana BW bouvet_island BV brazil BR british_indian_ocean_territory IO
    british_virgin_islands VG brunei BN bulgaria BG burkina_faso BF burundi BI cambodia KH cameroon CM canada CA
    canary_islands IC cape_verde CV caribbean_netherlands BQ cayman_islands KY central_african_republic CF
    ceuta_&_melilla EA chad TD chile CL china CN christmas_island CX clipperton_island CP cocos_(keeling)_islands CC
    colombia CO comoros KM congo_-_brazzaville CG congo_-_kinshasa CD cook_islands CK costa_rica CR croatia HR
    cuba CU curaçao CW cyprus CY czechia CZ côte_d’ivoire CI denmark DK diego_garcia DG djibouti DJ dominica DM
    dominican_republic DO ecuador EC egypt EG el_salvador SV equatorial_guinea GQ eritrea ER estonia EE ethiopia ET
    european_union EU falkland_islands FK faroe_islands FO fiji FJ finland FI flag_for_afghanistan AF
    flag_for_albania AL flag_for_algeria DZ flag_for_american_samoa AS flag_for_andorra AD flag_for_angola AO
    flag_for_anguilla AI flag_for_antarctica AQ flag_for_antigua_&_barbuda AG flag_for_argentina AR
    flag_for_armenia AM flag_for_aruba AW flag_for_ascension_island AC flag_for_australia AU flag_for_austria AT
    flag_for_azerbaijan AZ flag_for_bahamas BS flag_for_bahrain BH flag_for_bangladesh BD flag_for_barbados BB
    flag_for_belarus BY flag_for_belgium BE flag_for_belize BZ flag_for_benin BJ flag_for_bermuda BM
    flag_for_bhutan BT flag_for_bolivia BO flag_for_bosnia_&_herzegovina BA flag_for_botswana BW
    flag_for_bouvet_island BV flag_for_brazil BR flag_for_british_indian_ocean_territory IO
    flag_for_british_virgin_islands VG flag_for_brunei BN flag_for_bulgaria BG flag_for_burkina_faso BF
    flag_for_burundi BI flag_for_cambodia KH flag_for_cameroon CM flag_for_canada CA flag_for_canary_islands IC
    flag_for_cape_verde CV flag_for_caribbean_netherlands BQ flag_for_cayman_islands KY
    flag_for_central_african_republic CF flag_for_ceuta_&_melilla EA flag_for_chad TD flag_for_chile CL
    flag_for_china CN flag_for_christmas_island CX flag_for_clipperton_island CP flag_for_cocos__islands CC
    flag_for_colombia CO flag_for_comoros KM flag_for_congo____brazzaville CG flag_for_congo____kinshasa CD
    flag_for_cook_islands CK flag_for_costa_rica CR flag_for_croatia HR flag_for_cuba CU flag_for_curaçao CW
    flag_for_cyprus CY flag_for_czech_republic CZ flag_for_côte_d’ivoire CI flag_for_denmark DK
    flag_for_diego_garcia DG flag_for_djibouti DJ flag_for_dominica DM flag_for_dominican_republic DO
    flag_for_ecuador EC flag_for_egypt EG flag_for_el_salvador SV flag_for_equatorial_guinea GQ flag_for_eritrea ER
    flag_for_estonia EE flag_for_ethiopia ET flag_for_european_union EU flag_for_falkland_islands FK
    flag_for_faroe_islands FO flag_for_fiji FJ flag_for_finland FI flag_for_france FR flag_for_french_guiana GF
    flag_for_french_polynesia PF flag_for_french_southern_territories TF flag_for_gabon GA flag_for_gambia GM
    flag_for_georgia GE flag_for_germany DE flag_for_ghana GH flag_for_gibraltar GI flag_for_greece GR
    flag_for_greenland GL flag_for_grenada GD flag_for_guadeloupe GP flag_for_guam GU flag_for_guatemala GT
    flag_for_guernsey GG flag_for_guinea GN flag_for_guinea__bissau GW flag_for_guyana GY flag_for_haiti HT
    flag_for_heard_&_mcdonald_islands HM flag_for_honduras HN flag_for_hong_kong HK flag_for_hungary HU
    flag_for_iceland IS flag_for_india IN flag_for_indonesia ID flag_for_iran IR flag_for_iraq IQ
    flag_for_ireland IE flag_for_isle_of_man IM flag_for_israel IL flag_for_italy IT flag_for_jamaica JM
    flag_for_japan JP flag_for_jersey JE flag_for_jordan JO flag_for_kazakhstan KZ flag_for_kenya KE
    flag_for_kiribati KI flag_for_kosovo XK flag_for_kuwait KW flag_for_kyrgyzstan KG flag_for_laos LA
    flag_for_latvia LV flag_for_lebanon LB flag_for_lesotho LS flag_for_liberia LR flag_for_libya LY
    flag_for_liechtenstein LI flag_for_lithuania LT flag_for_luxembourg LU flag_for_macau MO flag_for_macedonia MK
    flag_for_madagascar MG flag_for_malawi MW flag_for_malaysia MY flag_for_maldives MV flag_for_mali ML
    flag_for_malta MT flag_for_marshall_islands MH flag_for_martinique MQ flag_for_mauritania MR
    flag_for_mauritius MU flag_for_mayotte YT flag_for_mexico MX flag_for_micronesia FM flag_for_moldova MD
    flag_for_monaco MC flag_for_mongolia MN flag_for_montenegro ME flag_for_montserrat MS flag_for_morocco MA
    flag_for_mozambique MZ flag_for_myanmar MM flag_for_namibia NA flag_for_nauru NR flag_for_nepal NP
    flag_for_netherlands NL flag_for_new_caledonia NC flag_for_new_zealand NZ flag_for_nicaragua NI
    flag_for_niger NE flag_for_nigeria NG flag_for_niue NU flag_for_norfolk_island NF flag_for_north_korea KP
    flag_for_northern_mariana_islands MP flag_for_norway NO flag_for_oman OM flag_for_pakistan PK flag_for_palau PW
    flag_for_palestinian_territories PS flag_for_panama PA flag_for_papua_new_guinea PG flag_for_paraguay PY
    flag_for_peru PE flag_for_philippines PH flag_for_pitcairn_islands PN flag_for_poland PL flag_for_portugal PT
    flag_for_puerto_rico PR flag_for_qatar QA flag_for_romania RO flag_for_russia RU flag_for_rwanda RW
    flag_for_réunion RE flag_for_samoa WS flag_for_san_marino SM flag_for_saudi_arabia SA flag_for_senegal SN
    flag_for_serbia RS flag_for_seychelles SC flag_for_sierra_leone SL flag_for_singapore SG
    flag_for_sint_maarten SX flag_for_slovakia SK flag_for_slovenia SI flag_for_solomon_islands SB
    flag_for_somalia SO flag_for_south_africa ZA flag_for_south_georgia_&_south_sandwich_islands GS
    flag_for_south_korea KR flag_for_south_sudan SS flag_for_spain ES flag_for_sri_lanka LK
    flag_for_st._barthélemy BL flag_for_st._helena SH flag_for_st._kitts_&_nevis KN flag_for_st._lucia LC
    flag_for_st._martin MF flag_for_st._pierre_&_miquelon PM flag_for_st._vincent_&_grenadines VC flag_for_sudan SD
    flag_for_suriname SR flag_for_svalbard_&_jan_mayen SJ flag_for_swaziland SZ flag_for_sweden SE
    flag_for_switzerland CH flag_for_syria SY flag_for_são_tomé_&_príncipe ST flag_for_taiwan TW
    flag_for_tajikistan TJ flag_for_tanzania TZ flag_for_thailand TH flag_for_timor__leste TL flag_for_togo TG
    flag_for_tokelau TK flag_for_tonga TO flag_for_trinidad_&_tobago TT flag_for_tristan_da_cunha TA
    flag_for_tunisia TN flag_for_turkey TR flag_for_turkmenistan TM flag_for_turks_&_caicos_islands TC
    flag_for_tuvalu TV flag_for_u.s._outlying_islands UM flag_for_u.s._virgin_islands VI flag_for_uganda UG
    flag_for_ukraine UA flag_for_united_arab_emirates AE flag_for_united_kingdom GB flag_for_united_states US
    flag_for_uruguay UY flag_for_uzbekistan UZ flag_for_vanuatu VU flag_for_vatican_city VA flag_for_venezuela VE
    flag_for_vietnam VN flag_for_wallis_&_futuna WF flag_for_western_sahara EH flag_for_yemen YE flag_for_zambia ZM
    flag_for_zimbabwe ZW flag_for_åland_islands AX france FR french_guiana GF french_polynesia PF
    french_southern_territories TF gabon GA gambia GM georgia GE germany DE ghana GH gibraltar GI greece GR
    greenland GL grenada GD guadeloupe GP guam GU guatemala GT guernsey GG guinea GN guinea-bissau GW guyana GY
    haiti HT heard_&_mcdonald_islands HM honduras HN hong_kong_sar_china HK hungary HU iceland IS india IN
    indonesia ID iran IR iraq IQ ireland IE isle_of_man IM israel IL italy IT jamaica JM jersey JE jordan JO
    kazakhstan KZ kenya KE kiribati KI kosovo XK kuwait KW kyrgyzstan KG laos LA latvia LV lebanon LB lesotho LS
    liberia LR libya LY liechtenstein LI lithuania LT luxembourg LU macau_sar_china MO macedonia MK madagascar MG
    malawi MW malaysia MY maldives MV mali ML malta MT marshall_islands MH martinique MQ mauritania MR mauritius MU
    mayotte YT mexico MX micronesia FM moldova MD monaco MC mongolia MN montenegro ME montserrat MS morocco MA
    mozambique MZ myanmar_(burma) MM namibia NA nauru NR nepal NP netherlands NL new_caledonia NC new_zealand NZ
    nicaragua NI niger NE nigeria NG niue NU norfolk_island NF north_korea KP northern_mariana_islands MP norway NO
    oman OM pakistan PK palau PW palestinian_territories PS panama PA papua_new_guinea PG paraguay PY peru PE
    philippines PH pitcairn_islands PN poland PL portugal PT puerto_rico PR qatar QA romania RO russia RU rwanda RW
    réunion RE samoa WS san_marino SM saudi_arabia SA senegal SN serbia RS seychelles SC sierra_leone SL
    singapore SG sint_maarten SX slovakia SK slovenia SI solomon_islands SB somalia SO south_africa ZA
    south_georgia_&_south_sandwich_islands GS south_korea KR south_sudan SS spain ES sri_lanka LK st._barthélemy BL
    st._helena SH st._kitts_&_nevis KN st._lucia LC st._martin MF st._pierre_&_miquelon PM
    st._vincent_&_grenadines VC sudan SD suriname SR svalbard_&_jan_mayen SJ swaziland SZ sweden SE switzerland CH
    syria SY são_tomé_&_príncipe ST taiwan TW tajikistan TJ tanzania TZ thailand TH timor-leste TL togo TG
    tokelau TK tonga TO trinidad_&_tobago TT tristan_da_cunha TA tunisia TN turkmenistan TM
    turks_&_caicos_islands TC tuvalu TV u.s._outlying_islands UM u.s._virgin_islands VI uganda UG ukraine UA
    united_arab_emirates AE united_kingdom GB united_nations UN united_states US uruguay UY uzbekistan UZ vanuatu VU
    vatican_city VA venezuela VE vietnam VN wallis_&_futuna WF western_sahara EH yemen YE zambia ZM zimbabwe ZW
    åland_islands AX"

end ImportChart.Markup.Emoji
